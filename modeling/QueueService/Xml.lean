/-!
# XML

The elements that answers are made of, and their text. Text between tags is escaped character by
character with the five predefined entities. A text by itself is escaped by replacing one character after
the other throughout the text.
-/

namespace QueueService

/-- The written form of a character between tags. -/
def Xml.escapeChar (c : Char) : List Char :=
  if c = '&' then ['&', 'a', 'm', 'p', ';']
  else if c = '<' then ['&', 'l', 't', ';']
  else if c = '>' then ['&', 'g', 't', ';']
  else if c = '"' then ['&', 'q', 'u', 'o', 't', ';']
  else if c = '\'' then ['&', 'a', 'p', 'o', 's', ';']
  else [c]

/-- The written form of characters between tags. -/
def Xml.escape (cs : List Char) : List Char := cs.flatMap escapeChar

theorem Xml.escape_append (a b : List Char) : escape (a ++ b) = escape a ++ escape b := by
  simp [escape]

/-- Write something else for a character, wherever it stands. -/
def Xml.replace (c : Char) (written cs : List Char) : List Char :=
  cs.flatMap fun d => if d = c then written else [d]

/-- Replace one character after the other, each also in what has been written for those before it. -/
def Xml.replaceInTurn (replacements : List (Char × List Char)) (cs : List Char) : List Char :=
  replacements.foldl (fun cs r => replace r.1 r.2 cs) cs

/-- What is written for the characters that are markup. The ampersand is the first to be replaced, since
    what is written for the others begins with one. -/
def Xml.references : List (Char × List Char) :=
  [('&', ['&', 'a', 'm', 'p', ';']), ('<', ['&', 'l', 't', ';']), ('>', ['&', 'g', 't', ';']),
    ('"', ['&', 'q', 'u', 'o', 't', ';']), ('\'', ['&', 'a', 'p', 'o', 's', ';'])]

/-- The written form of a text between tags. -/
def Xml.escapeText (text : String) : String :=
  String.ofList (replaceInTurn references text.toList)

/-- A piece of an XML document. -/
inductive Xml
  /-- Text between tags. -/
  | text (content : String)
  /-- Text of the service's own making that needs no escape and is written as it is. -/
  | verbatim (content : String)
  /-- An element with its attributes, whose values are written as they are, and its content. -/
  | element (tag : String) (attributes : List (String × String)) (content : List Xml)
  /-- An element without content, in its short form. -/
  | empty (tag : String)

namespace Xml

/-- An element that holds a text. -/
def leaf (tag content : String) : Xml := element tag [] [text content]

/-- An element that holds other elements. -/
def node (tag : String) (content : List Xml) : Xml := element tag [] content

/-- The written form of an attribute. -/
def writeAttribute (a : String × String) : List Char :=
  ' ' :: a.1.toList ++ '=' :: '"' :: a.2.toList ++ ['"']

mutual

/-- The written form of a piece. -/
def write : Xml → List Char
  | text content => escape content.toList
  | verbatim content => content.toList
  | element tag attributes content =>
    '<' :: tag.toList ++ attributes.flatMap writeAttribute ++ '>' :: writeAll content
      ++ '<' :: '/' :: tag.toList ++ ['>']
  | empty tag => '<' :: tag.toList ++ ['/', '>']

/-- The written form of pieces, one behind the other. -/
def writeAll : List Xml → List Char
  | [] => []
  | x :: rest => write x ++ writeAll rest

end

/-- The first line of a document. -/
def declaration : String := "<?xml version=\"1.0\" encoding=\"UTF-8\"?>\n"

/-- The text of a document with a given root. -/
def document (root : Xml) : String := declaration ++ String.ofList (write root)

end Xml

end QueueService
