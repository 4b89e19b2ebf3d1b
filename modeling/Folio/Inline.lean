/-!
# Inline tokens

The content of a heading, a paragraph, a quote or a list item is a sequence of inline tokens. Strong,
emphasised and struck content nests; a link keeps only the text that it shows. What has no token of
its own is `unrecognized`: it carries a literal text, children, or neither.

`plainText` is the literal text of a token and everything below it, left to right. An unrecognized
token with a text stands for that text, and one without stands for its children.
-/

namespace Folio

inductive Inline where
  | text (text : String)
  | strong (children : List Inline)
  | emphasis (children : List Inline)
  | strikethrough (children : List Inline)
  | code (text : String)
  | link (display href : String)
  | lineBreak
  | unrecognized (text : Option String) (children : Option (List Inline))

mutual

def Inline.plainText : Inline → String
  | .text literal => literal
  | .code literal => literal
  | .link display _ => display
  | .lineBreak => "\n"
  | .strong children => Inline.plainTextAll children
  | .emphasis children => Inline.plainTextAll children
  | .strikethrough children => Inline.plainTextAll children
  | .unrecognized (some literal) (some children) =>
    if literal = "" then Inline.plainTextAll children else literal
  | .unrecognized (some literal) none => literal
  | .unrecognized none (some children) => Inline.plainTextAll children
  | .unrecognized none none => ""

def Inline.plainTextAll : List Inline → String
  | [] => ""
  | token :: rest => token.plainText ++ Inline.plainTextAll rest

end

end Folio
