import Folio.Markdown.Scan
import Folio.Text.Ascii
/-!
# Addresses in angles

An address between angles is a link to itself: a URI whose scheme has from two to 32 characters, or
the address of a mailbox.
-/

namespace Folio.Markdown

def isSchemeChar (c : Char) : Bool :=
  Text.isAsciiAlphanumeric c || c = '.' || c = '-' || c = '+'

/-- A URI up to the closing angle, and what remains. -/
def uri? (text : List Char) : Option (List Char × List Char) :=
  let scheme := text.takeWhile isSchemeChar
  let letterFirst := match scheme with
    | c :: _ => Text.isAsciiLetter c
    | [] => false
  match text.drop scheme.length with
  | ':' :: rest =>
    let isUriChar (c : Char) : Bool := 0x20 < c.toNat && c ≠ '<' && c ≠ '>'
    match rest.dropWhile isUriChar with
    | '>' :: after =>
      if letterFirst && 2 ≤ scheme.length && scheme.length ≤ 32 then
        some (scheme ++ ':' :: rest.takeWhile isUriChar, after)
      else none
    | _ => none
  | _ => none

def isMailboxChar (c : Char) : Bool :=
  Text.isAsciiAlphanumeric c || ".!#$%&'*+/=?^_\x60\x7b|\x7d~-".toList.contains c

/-- A label of a domain: letters, digits and inner hyphens. -/
def isDomainLabel (label : List Char) : Bool :=
  !label.isEmpty && label.length ≤ 63 && label.head? ≠ some '-' && label.getLast? ≠ some '-'

/-- The address of a mailbox up to the closing angle, and what remains. -/
def mailbox? (text : List Char) : Option (List Char × List Char) :=
  let name := text.takeWhile isMailboxChar
  match text.drop name.length with
  | '@' :: rest =>
    let isDomainChar (c : Char) : Bool := Text.isAsciiAlphanumeric c || c = '-' || c = '.'
    let domain := rest.takeWhile isDomainChar
    match rest.drop domain.length with
    | '>' :: after =>
      if !name.isEmpty && (domain.splitOn '.').all isDomainLabel then
        some (name ++ '@' :: domain, after)
      else none
    | _ => none
  | _ => none

/-- An address after an opening angle, and what remains after the closing one. -/
def autolink? (text : List Char) : Option (List Char × List Char) :=
  (uri? text).or (mailbox? text)

end Folio.Markdown
