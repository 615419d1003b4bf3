import YangBind.Text.Cased
import YangBind.Text.CaseMapping

/-! Upper and lower case of characters and lower case of text. Lower case depends on the place of a
letter in one case only: a capital sigma at the end of a word has the final form. -/

namespace YangBind.Text

def lowerChar (c : Char) : List Char :=
  if c.toNat < 0x80 then [c.toLower] else lowerMapping.apply c

def upperChar (c : Char) : List Char :=
  if c.toNat < 0x80 then [c.toUpper] else upperMapping.apply c

/-- Whether the first character that is not case ignorable is a letter with case. -/
def meetsCased (cs : List Char) : Bool :=
  (cs.dropWhile caseIgnorable.contains).head?.any cased.contains

/-- The lower case of `after`, where `before` holds the characters in front of it, nearest first. -/
def lowerChars (before : List Char) : List Char → List Char
  | [] => []
  | 'Σ' :: after =>
    let sigma := if meetsCased before && !meetsCased after then 'ς' else 'σ'
    sigma :: lowerChars ('Σ' :: before) after
  | c :: after => lowerChar c ++ lowerChars (c :: before) after

def lower (s : String) : String := String.ofList (lowerChars [] s.toList)

end YangBind.Text
