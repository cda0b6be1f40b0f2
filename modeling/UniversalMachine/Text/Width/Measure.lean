import UniversalMachine.Text.Width.Property

/-! How many cells of a screen text takes. The width of a character can depend on those behind it,
so text is measured from its end. -/
namespace UniversalMachine.Text.Width

/-- The end of a ligature, seen from the character before it. -/
inductive Ligature where
  | alef
  | lamed
  /-- The Buginese letter ya. -/
  | ya
  /-- The Buginese vowel sign that joins ya. -/
  | vowelYa
  /-- A Tifinagh consonant. -/
  | consonant
  /-- A Tifinagh consonant behind the joining sign. -/
  | joinedConsonant
  /-- The second of two Lisu tone letters. -/
  | tone
  /-- The Old Turkic letter i. -/
  | orkhonI
  /-- A Khmer letter that can stand below another one. -/
  | subscript
  deriving DecidableEq, Repr

/-- What stands behind a character, as far as it can change the width of that character. -/
inductive Context where
  | nothing
  | lineFeed
  | emoji
  | skinTone
  /-- One letter of a flag. -/
  | flagLetter
  | flagLetters
  /-- A joiner and an emoji. -/
  | joinedEmoji
  /-- A keycap that is joined to an emoji. -/
  | joinedKeycap
  | joinedFlagLetter
  /-- Several letters of flags that are joined to an emoji. -/
  | joinedFlags (even : Bool)
  /-- The tags of a flag that is joined to an emoji: so many letters, and digits before them. -/
  | joinedTags (letters digits : Nat)
  /-- A ligature, with or without a joiner before it. -/
  | ligature (last : Ligature) (joined : Bool)
  deriving DecidableEq, Repr

/-- A context, with the selectors that stand before it. -/
structure Following where
  context : Context := .nothing
  emojiSelector : Bool := false
  textSelector : Bool := false
  deriving DecidableEq, Repr

def textSelector : Char := '\ufe0e'
def emojiSelector : Char := '\ufe0f'
def joiner : Char := '\u200d'

def isBetween (c : Char) (low high : Nat) : Bool := low ≤ c.toNat && c.toNat ≤ high

def isFlagLetter (c : Char) : Bool := isBetween c 0x1F1E6 0x1F1FF
def isSkinTone (c : Char) : Bool := isBetween c 0x1F3FB 0x1F3FF
def isTagLetter (c : Char) : Bool := isBetween c 0xE0061 0xE007A
def isTagDigit (c : Char) : Bool := isBetween c 0xE0030 0xE0039

/-- The width of a character by itself. -/
def charWidth (c : Char) : Nat :=
  if c.toNat ≤ 0xA0 then 1
  else if c.toNat = 0x17D8 then 3
  else if invisible.contains c then 0
  else if wide.contains c then 2
  else 1

/-- The characters up to the no-break space are narrow. -/
theorem charWidth_of_le {c : Char} (h : c.toNat ≤ 0xA0) : charWidth c = 1 := by
  simp [charWidth, h]

/-- What a character by itself is to the one before it. -/
def ofChar (c : Char) : Following :=
  let code := c.toNat
  if c = textSelector then { textSelector := true }
  else if c = emojiSelector then { emojiSelector := true }
  else if isFlagLetter c then { context := .flagLetter }
  else if isSkinTone c then { context := .skinTone }
  else if emoji.contains c then { context := .emoji }
  else if alefs.contains c then { context := .ligature .alef false }
  else if code = 0x5DC then { context := .ligature .lamed false }
  else if code = 0x1A10 then { context := .ligature .ya false }
  else if tifinagh.contains c then { context := .ligature .consonant false }
  else if isBetween c 0xA4FC 0xA4FD then { context := .ligature .tone false }
  else if code = 0x10C03 then { context := .ligature .orkhonI false }
  else if subscripts.contains c then { context := .ligature .subscript false }
  else {}

namespace Following

/-- A selector in front keeps a ligature, and an emoji that is joined to the next one. -/
def selectEmoji (following : Following) : Following :=
  match following.context with
  | .ligature .. | .joinedEmoji | .joinedKeycap => { following with emojiSelector := true }
  | _ => { emojiSelector := true }

def selectText (following : Following) : Following :=
  match following.context with
  | .ligature .. => { following with textSelector := true }
  | _ => { textSelector := true }

/-- What is left of a selector that does not apply: a ligature only. -/
def dropEmojiSelector (following : Following) : Following :=
  match following.context with
  | .ligature .. => { following with emojiSelector := false }
  | _ => {}

end Following

/-- The width of a character before a ligature, if it belongs to it. Such a character adds nothing,
or takes back the cell that was counted for the last one. -/
def beforeLigature? (c : Char) (last : Ligature) (joined : Bool) : Option (Int × Following) :=
  match last, joined with
  | .alef, _ =>
    if lams.contains c then some (0, {})
    else if charWidth c = 0 && !separating.contains c then
      some (0, { context := .ligature .alef joined })
    else none
  | .lamed, true => if c.toNat = 0x5D0 then some (0, {}) else none
  | .subscript, _ => if c.toNat = 0x17D2 then some (-1, {}) else none
  | .ya, true =>
    if c.toNat = 0x1A17 then some (0, { context := .ligature .vowelYa true }) else none
  | .vowelYa, _ => if c.toNat = 0x1A15 then some (0, {}) else none
  | .consonant, _ =>
    if c.toNat = 0x2D7F then some (1, { context := .ligature .joinedConsonant true })
    else if joined && tifinagh.contains c then some (0, {})
    else none
  | .joinedConsonant, _ => if tifinagh.contains c then some (-1, {}) else none
  | .tone, _ => if isBetween c 0xA4F8 0xA4FB then some (0, {}) else none
  | .orkhonI, true => if c.toNat = 0x10C32 then some (0, {}) else none
  | .lamed, false | .ya, false | .orkhonI, false => none

/-- The width of a character before the tags of a flag that is joined to an emoji. -/
def beforeTags? (c : Char) (letters digits : Nat) : Option (Int × Following) :=
  if isTagLetter c && digits = 0 && letters < 6 then
    some (0, { context := .joinedTags (letters + 1) 0 })
  else if isTagDigit c && (digits = 0 && letters ≤ 4 || digits = 1 || digits = 2) then
    some (0, { context := .joinedTags letters (digits + 1) })
  else if c.toNat = 0x1F3F4 && (digits = 0 && 3 ≤ letters || digits = 3) then
    some (0, { context := .emoji })
  else none

/-- The width of a character that belongs to what follows it. Emoji that are joined, or changed by a
skin tone, count once, and so do the two letters of a flag that is joined to an emoji. -/
def beforeContext? (c : Char) : Context → Option (Int × Following)
  | .nothing | .lineFeed => none
  | .ligature last joined =>
    if last ≠ .alef && c = joiner then some (0, { context := .ligature last true })
    else if last ≠ .alef && ignorableMarks.contains c then
      some (0, { context := .ligature last joined })
    else beforeLigature? c last joined
  | .emoji => if c = joiner then some (0, { context := .joinedEmoji }) else none
  | .skinTone =>
    if modifierBases.contains c then some (0, { context := .emoji })
    else if c = joiner then some (0, { context := .joinedEmoji })
    else none
  | .flagLetter => if isFlagLetter c then some (1, { context := .flagLetters }) else none
  | .flagLetters =>
    if isFlagLetter c then some (1, { context := .flagLetters })
    else if c = joiner then some (0, { context := .joinedEmoji })
    else none
  | .joinedEmoji =>
    if c.toNat = 0x20E3 then some (0, { context := .joinedKeycap })
    else if isFlagLetter c then some (1, { context := .joinedFlagLetter })
    else if isSkinTone c then some (0, { context := .skinTone })
    else if c.toNat = 0xE007F then some (0, { context := .joinedTags 0 0 })
    else if emoji.contains c then some (0, { context := .emoji })
    else none
  | .joinedKeycap => none
  | .joinedFlagLetter =>
    if isFlagLetter c then some (-1, { context := .joinedFlags true }) else none
  | .joinedFlags even =>
    if isFlagLetter c then some (if even then 3 else -1, { context := .joinedFlags !even })
    else if c = joiner then some (0, { context := .joinedEmoji })
    else none
  | .joinedTags letters digits => beforeTags? c letters digits

/-- The width of a character before a context, none of whose selectors applies to it. -/
def beforePlain (c : Char) (context : Context) : Int × Following :=
  (beforeContext? c context).getD (charWidth c, ofChar c)

/-- The width of a character behind which no emoji selector stands. -/
def beforeUnselected (c : Char) (following : Following) : Int × Following :=
  if c.toNat ≤ 0xA0 then
    if c = '\n' then (0, { context := .lineFeed })
    else if c = '\r' && following = { context := .lineFeed } then (0, {})
    else (1, {})
  else if c = emojiSelector then (0, following.selectEmoji)
  else if c = textSelector then (0, following.selectText)
  else if following.textSelector && textual.contains c then (1, {})
  else beforePlain c following.context

/-- The width of a character, given what follows it, and what it is to the one before. -/
def before (c : Char) (following : Following) : Int × Following :=
  if following.emojiSelector then
    if selectable.contains c then
      let joined := following.context = .joinedEmoji || following.context = .joinedKeycap
      (if joined then 0 else 2, { context := .emoji })
    else beforeUnselected c following.dropEmojiSelector
  else beforeUnselected c following

/-- The width of a text, and what it is to a character before it. -/
def measure (text : List Char) : Int × Following :=
  text.foldr (fun c (total, following) =>
    let (cells, following) := before c following
    (total + cells, following)) (0, {})

theorem before_of_le {c : Char} (h : c.toNat ≤ 0xA0) (hc : c ≠ '\n') : before c {} = (1, {}) := by
  simp [before, beforeUnselected, h, hc]

/-- Narrow characters count one each, and mean nothing to the character before. -/
theorem measure_of_le {text : List Char} (h : ∀ c ∈ text, c.toNat ≤ 0xA0 ∧ c ≠ '\n') :
    measure text = ((text.length : Int), {}) := by
  induction text with
  | nil => rfl
  | cons c rest ih =>
    obtain ⟨hc, hrest⟩ := List.forall_mem_cons.1 h
    have := ih hrest
    simp only [measure] at this
    simp [measure, this, before_of_le hc.1 hc.2]

end UniversalMachine.Text.Width

namespace UniversalMachine.Text

/-- The number of cells that characters take together. -/
def width (text : List Char) : Nat := (Width.measure text).1.toNat

/-- Narrow characters take a cell each. -/
theorem width_of_le {text : List Char} (h : ∀ c ∈ text, c.toNat ≤ 0xA0 ∧ c ≠ '\n') :
    width text = text.length := by
  simp [width, Width.measure_of_le h]

example : width "a日".toList = 3 := by decide +kernel
example : width ['\r','\n'] = 0 := by decide +kernel
example : width ['e','\u0301'] = 1 := by decide +kernel
example : width ['❤'] = 1 := by decide +kernel
example : width ['❤','\ufe0f'] = 2 := by decide +kernel
example : width "👩🏽\u200d🔬".toList = 2 := by decide +kernel
example : width ['ل','ا'] = 1 := by decide +kernel
example : width ['\u17d2','ឋ'] = 0 := by decide +kernel

end UniversalMachine.Text
