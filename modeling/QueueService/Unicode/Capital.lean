import QueueService.Unicode.Table

/-!
# Capitals

The capitals beyond ASCII and the small letters that belong to them, except for the dotted `I`, whose
small form is two characters.
-/

namespace QueueService.Unicode

/-- Runs of capitals whose small letters are a run of the same order. The value is the small letter of
    the first capital. -/
def capitals : Table Nat := Table.ofText Hex.number
  "C0-D6:E0 D8-DE:F8 178:FF 181:253 186:254 189-18A:256 18E:1DD 18F:259 190:25B 193:260 194:263
   196:269 197:268 19C:26F 19D:272 19F:275 1A6:280 1A9:283 1AE:288 1B1-1B2:28A 1B7:292 1C4:1C6
   1C7:1C9 1CA:1CC 1F1:1F3 1F6:195 1F7:1BF 220:19E 23A:2C65 23D:19A 23E:2C66 243:180 244:289
   245:28C 37F:3F3 386:3AC 388-38A:3AD 38C:3CC 38E-38F:3CD 391-3A1:3B1 3A3-3AB:3C3 3CF:3D7 3F4:3B8
   3F9:3F2 3FD-3FF:37B 400-40F:450 410-42F:430 4C0:4CF 531-556:561 10A0-10C5:2D00 10C7:2D27
   10CD:2D2D 13A0-13EF:AB70 13F0-13F5:13F8 1C90-1CBA:10D0 1CBD-1CBF:10FD 1E9E:DF 1F08-1F0F:1F00
   1F18-1F1D:1F10 1F28-1F2F:1F20 1F38-1F3F:1F30 1F48-1F4D:1F40 1F59:1F51 1F5B:1F53 1F5D:1F55
   1F5F:1F57 1F68-1F6F:1F60 1F88-1F8F:1F80 1F98-1F9F:1F90 1FA8-1FAF:1FA0 1FB8-1FB9:1FB0
   1FBA-1FBB:1F70 1FBC:1FB3 1FC8-1FCB:1F72 1FCC:1FC3 1FD8-1FD9:1FD0 1FDA-1FDB:1F76 1FE8-1FE9:1FE0
   1FEA-1FEB:1F7A 1FEC:1FE5 1FF8-1FF9:1F78 1FFA-1FFB:1F7C 1FFC:1FF3 2126:3C9 212A:6B 212B:E5
   2132:214E 2160-216F:2170 24B6-24CF:24D0 2C00-2C2F:2C30 2C62:26B 2C63:1D7D 2C64:27D 2C6D:251
   2C6E:271 2C6F:250 2C70:252 2C7E-2C7F:23F A77D:1D79 A78D:265 A7AA:266 A7AB:25C A7AC:261 A7AD:26C
   A7AE:26A A7B0:29E A7B1:287 A7B2:29D A7B3:AB53 A7C4:A794 A7C5:282 A7C6:1D8E A7CB:264 A7DC:19B
   FF21-FF3A:FF41 10400-10427:10428 104B0-104D3:104D8 10570-1057A:10597 1057C-1058A:105A3
   1058C-10592:105B3 10594-10595:105BB 10C80-10CB2:10CC0 10D50-10D65:10D70 118A0-118BF:118C0
   16E40-16E5F:16E60 16EA0-16EB8:16EBB 1E900-1E921:1E922"

/-- Runs in which each capital is followed by its small letter. -/
def capitalPairs : Table Unit := Table.set
  "100-12F 132-137 139-148 14A-177 179-17E 182-185 187-188 18B-18C 191-192 198-199 1A0-1A5 1A7-1A8
   1AC-1AD 1AF-1B0 1B3-1B6 1B8-1B9 1BC-1BD 1C5-1C6 1C8-1C9 1CB-1DC 1DE-1EF 1F2-1F5 1F8-21F 222-233
   23B-23C 241-242 246-24F 370-373 376-377 3D8-3EF 3F7-3F8 3FA-3FB 460-481 48A-4BF 4C1-4CE 4D0-52F
   1C89-1C8A 1E00-1E95 1EA0-1EFF 2183-2184 2C60-2C61 2C67-2C6C 2C72-2C73 2C75-2C76 2C80-2CE3
   2CEB-2CEE 2CF2-2CF3 A640-A66D A680-A69B A722-A72F A732-A76F A779-A77C A77E-A787 A78B-A78C
   A790-A793 A796-A7A9 A7B4-A7C3 A7C7-A7CA A7CC-A7DB A7F5-A7F6"

/-- The small letter of a capital beyond ASCII; other characters are their own. -/
def smallLetter (c : Char) : Char :=
  let n := c.toNat
  match capitalPairs.run? c, capitals.run? c with
  | some run, _ => if (n - run.first) % 2 = 0 then Char.ofNat (n + 1) else c
  | none, some run => Char.ofNat (run.value + (n - run.first))
  | none, none => c

end QueueService.Unicode
