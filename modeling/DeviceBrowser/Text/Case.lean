import DeviceBrowser.Text.CaseTable

/-! Case mapping of characters and texts, and the order and search that ignore case. -/

namespace DeviceBrowser.Text

/-- The lower case of one character: dotted capital I alone has two characters. -/
def lowerChar (c : Char) : List Char :=
  if c.toNat < 0x80 then [c.toLower]
  else if c = '\u0130' then ['i', '\u0307']
  else [Char.ofNat (shiftCase lowerRuns c.toNat)]

/-- The upper case of one character, with the expansions of the full mapping. -/
def upperChar (c : Char) : List Char :=
  if c.toNat < 0x80 then [c.toUpper]
  else match upperExpansions.lookup c.toNat with
    | some codes => codes.map Char.ofNat
    | none => [Char.ofNat (shiftCase upperRuns c.toNat)]

/-- Each character's upper case, in order. -/
def upperChars (chars : List Char) : List Char :=
  chars.flatMap upperChar

/-- Each character's lower case, in order, without regard to its neighbours. -/
def lowerChars (chars : List Char) : List Char :=
  chars.flatMap lowerChar

/-- Whether the first character that is not case-ignorable is cased. -/
def meetsCased (chars : List Char) : Bool :=
  match chars.dropWhile fun c => inRanges caseIgnorableRanges c.toNat with
  | c :: _ => inRanges casedRanges c.toNat
  | [] => false

/-- The lower case of a text in its context: a sigma that ends a word takes its final form.
`before` holds the characters already passed, nearest first. -/
def lowerWithin (before : List Char) : List Char → List Char
  | [] => []
  | c :: rest =>
    (if c = '\u03a3' then
        [if meetsCased before && !meetsCased rest then '\u03c2' else '\u03c3']
      else lowerChar c) ++ lowerWithin (c :: before) rest

/-- The lower case of a whole text. -/
def lower (text : String) : String :=
  String.ofList (lowerWithin [] text.toList)

/-- Whether every character is ASCII. -/
def isAsciiText (text : String) : Bool :=
  text.toList.all fun c => decide (c.toNat < 0x80)

/-- Whether `needle` stands somewhere in a list of characters, without gaps. -/
def occursIn (needle : List Char) : List Char → Bool
  | [] => needle.isEmpty
  | c :: rest => needle.isPrefixOf (c :: rest) || occursIn needle rest

/-- Orders two texts by the lower case of their characters, one by one. -/
def compareIgnoringCase (left right : String) : Ordering :=
  compare (lowerChars left.toList) (lowerChars right.toList)

/-- Whether `needle`, already in lower case, occurs in a text whose case is ignored. Two ASCII texts
are matched letter by letter; otherwise the text is put in lower case as a whole. -/
def containsIgnoringCase (text needle : String) : Bool :=
  if needle.isEmpty then true
  else if isAsciiText text && isAsciiText needle then
    occursIn needle.toList (text.toList.map Char.toLower)
  else
    occursIn needle.toList (lower text).toList

end DeviceBrowser.Text
