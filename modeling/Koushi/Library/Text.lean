import Mathlib

namespace Text

open List String

/-!
# Byte offsets of characters

Texts are sequences of characters, but lengths, limits and slice ends are counted
in UTF-8 bytes.  A slice end is meaningful only at a character boundary.  The
boundaries are enumerated by `charIndices`, and `takeBytes_lastStart` says that
slicing at the last of them within a limit takes the characters that fit.

The second part is about trimming and about texts joined by a delimiter: a part can
be read back when the delimiter does not occur in it.
-/

/-- The byte offsets at which the characters of a sequence start. -/
def charOffsets : Nat -> List Char -> List Nat
  | _, [] => []
  | start, char :: rest => start :: charOffsets (start + char.utf8Size) rest

/-- The byte offsets at which the characters of a text start. -/
def charIndices (text : String) : List Nat :=
  charOffsets 0 text.toList

/-- The characters that start before a byte offset. -/
def takeBytes : Nat -> List Char -> List Char
  | _, [] => []
  | 0, _ :: _ => []
  | bytes + 1, char :: rest => char :: takeBytes (bytes + 1 - char.utf8Size) rest

/-- The part of a text before a byte offset. -/
def sliceTo (text : String) (stop : Nat) : String :=
  ofList (takeBytes stop text.toList)

theorem utf8ByteSize_eq (text : String) : text.utf8ByteSize = utf8Len text.toList := by
  rw [← utf8ByteSize_ofList, ofList_toList]

@[simp] theorem takeBytes_zero (chars : List Char) : takeBytes 0 chars = [] := by
  cases chars <;> rfl

theorem takeBytes_cons {char : Char} {bytes : Nat} (positive : 0 < bytes) (rest : List Char) :
    takeBytes bytes (char :: rest) = char :: takeBytes (bytes - char.utf8Size) rest := by
  obtain ⟨bytes, rfl⟩ := Nat.exists_eq_succ_of_ne_zero (Nat.pos_iff_ne_zero.mp positive)
  rfl

theorem takeBytes_of_le {bytes : Nat} {chars : List Char} (fits : utf8Len chars ≤ bytes) :
    takeBytes bytes chars = chars := by
  induction chars generalizing bytes with
  | nil => cases bytes <;> rfl
  | cons char rest ih =>
    have width := char.utf8Size_pos
    rw [utf8Len_cons] at fits
    rw [takeBytes_cons (by omega), ih (by omega)]

theorem sliceTo_of_le {text : String} {stop : Nat} (fits : text.utf8ByteSize ≤ stop) :
    sliceTo text stop = text := by
  rw [utf8ByteSize_eq] at fits
  rw [sliceTo, takeBytes_of_le fits, ofList_toList]

/-! ## Fronts within a limit -/

/-- The longest front of a list that costs no more than a limit. -/
def takeWithin {α : Type} (cost : α -> Nat) : Nat -> List α -> List α
  | _, [] => []
  | limit, item :: rest =>
    if cost item ≤ limit then item :: takeWithin cost (limit - cost item) rest else []

section TakeWithin

variable {α β : Type} {cost : α -> Nat}

theorem takeWithin_isPrefix (limit : Nat) (items : List α) : takeWithin cost limit items <+: items := by
  induction items generalizing limit with
  | nil => exact nil_prefix
  | cons item rest ih =>
    unfold takeWithin
    split
    · exact (prefix_cons_inj item).mpr (ih _)
    · exact nil_prefix

theorem sum_takeWithin_le (limit : Nat) (items : List α) :
    ((takeWithin cost limit items).map cost).sum ≤ limit := by
  induction items generalizing limit with
  | nil => exact Nat.zero_le _
  | cons item rest ih =>
    have tail := ih (limit - cost item)
    unfold takeWithin
    split
    · rw [map_cons, sum_cons]
      omega
    · exact Nat.zero_le _

/-- A front that fits is taken whole. -/
theorem takeWithin_append_of_le {limit : Nat} {front : List α} (back : List α)
    (fits : (front.map cost).sum ≤ limit) : takeWithin cost limit (front ++ back) =
      front ++ takeWithin cost (limit - (front.map cost).sum) back := by
  induction front generalizing limit with
  | nil => rfl
  | cons item rest ih =>
    rw [map_cons, sum_cons] at fits
    rw [cons_append, takeWithin, if_pos (by omega), ih (by omega), map_cons, sum_cons, Nat.sub_sub]
    rfl

theorem takeWithin_append_of_lt {limit : Nat} {front : List α} (back : List α)
    (exceeds : limit < (front.map cost).sum) :
    takeWithin cost limit (front ++ back) = takeWithin cost limit front := by
  induction front generalizing limit with
  | nil => cases exceeds
  | cons item rest ih =>
    rw [map_cons, sum_cons] at exceeds
    rw [cons_append, takeWithin, takeWithin]
    split
    · rw [ih (by omega)]
    · rfl

theorem takeWithin_of_le {limit : Nat} {items : List α} (fits : (items.map cost).sum ≤ limit) :
    takeWithin cost limit items = items := by
  have whole := takeWithin_append_of_le [] fits
  rwa [append_nil, takeWithin, append_nil] at whole

theorem takeWithin_takeWithin (first second : Nat) (items : List α) :
    takeWithin cost second (takeWithin cost first items) = takeWithin cost (min first second) items := by
  induction items generalizing first second with
  | nil => rfl
  | cons item rest ih =>
    by_cases fits : cost item ≤ first
    · by_cases both : cost item ≤ second
      · simp only [takeWithin, fits, both, Nat.le_min.mpr ⟨fits, both⟩, if_true, ih]
        rw [Nat.sub_min_sub_right]
      · have smaller : ¬ cost item ≤ min first second := by omega
        simp only [takeWithin, fits, both, smaller, if_true, if_false]
    · have smaller : ¬ cost item ≤ min first second := by omega
      simp only [takeWithin, fits, smaller, if_false]

theorem takeWithin_map (place : β -> α) (limit : Nat) (items : List β) :
    takeWithin cost limit (items.map place) =
      (takeWithin (fun item => cost (place item)) limit items).map place := by
  induction items generalizing limit with
  | nil => rfl
  | cons item rest ih =>
    simp only [map_cons, takeWithin, ih]
    split <;> rfl

end TakeWithin

/-- Cutting at the last character start within a limit takes what fits. -/
theorem takeBytes_lastStart {chars : List Char} {start limit : Nat} (begun : start ≤ limit)
    (exceeds : limit < start + utf8Len chars) :
    ∃ last, ((charOffsets start chars).takeWhile (fun index => decide (index ≤ limit))).getLast? = some last ∧
      start ≤ last ∧ takeBytes (last - start) chars = takeWithin Char.utf8Size (limit - start) chars := by
  induction chars generalizing start with
  | nil => simp at exceeds; omega
  | cons char rest ih =>
    have width := char.utf8Size_pos
    rw [utf8Len_cons] at exceeds
    rw [charOffsets, takeWhile_cons_of_pos (by simpa using begun)]
    by_cases next : start + char.utf8Size ≤ limit
    · rcases ih next (by omega) with ⟨last, found, after, cut⟩
      refine ⟨last, ?_, by omega, ?_⟩
      · rw [getLast?_cons, found]
        rfl
      · rw [takeBytes_cons (by omega), takeWithin, if_pos (by omega), Nat.sub_sub, Nat.sub_sub, cut]
    · have stops : (charOffsets (start + char.utf8Size) rest).takeWhile
          (fun index => decide (index ≤ limit)) = [] := by
        cases rest <;> simp [charOffsets, next]
      refine ⟨start, by rw [stops]; rfl, Nat.le_refl _, ?_⟩
      rw [Nat.sub_self, takeBytes_zero, takeWithin, if_neg (by omega)]

/-! ## White space, ASCII case and delimiters

The white space and control characters are those of Unicode.  A text in which no
character is white space is its own trimmed text. -/

/-- The characters with the Unicode property White_Space. -/
def isWhitespace (char : Char) : Bool :=
  let code := char.toNat
  (0x09 ≤ code && code ≤ 0x0D) || code == 0x20 || code == 0x85 || code == 0xA0 || code == 0x1680 ||
    (0x2000 ≤ code && code ≤ 0x200A) || code == 0x2028 || code == 0x2029 || code == 0x202F ||
    code == 0x205F || code == 0x3000

/-- The characters of the Unicode category Cc. -/
def isControl (char : Char) : Bool :=
  let code := char.toNat
  code ≤ 0x1F || (0x7F ≤ code && code ≤ 0x9F)

def isAsciiHexdigit (char : Char) : Bool :=
  char.isDigit || ('a' ≤ char && char ≤ 'f') || ('A' ≤ char && char ≤ 'F')

def isAsciiPunctuation (char : Char) : Bool :=
  ('!' ≤ char && char ≤ '/') || (':' ≤ char && char ≤ '@') || ('[' ≤ char && char ≤ '\x60') ||
    ('{' ≤ char && char ≤ '~')

def trim (text : String) : String :=
  ofList ((text.toList.dropWhile isWhitespace).rdropWhile isWhitespace)

def trimEnd (text : String) : String :=
  ofList (text.toList.rdropWhile isWhitespace)

def trimEndMatches (char : Char) (text : String) : String :=
  ofList (text.toList.rdropWhile (fun last => last == char))

def toAsciiLowercase (text : String) : String :=
  ofList (text.toList.map Char.toLower)

/-- The lines of a sequence of characters; a line break at the end starts no line. -/
def lineChars : List Char -> List (List Char)
  | [] => []
  | char :: rest =>
    if char = '\n' then [] :: lineChars rest
    else
      match lineChars rest with
      | [] => [[char]]
      | line :: lines => (char :: line) :: lines

def lines (text : String) : List String := (lineChars text.toList).map ofList

/-- What follows a leading text, when the text starts with it. -/
def stripPrefix (text lead : String) : Option String :=
  (text.toList.dropPrefix? lead.toList).map ofList

theorem stripPrefix_eq_some_iff {text lead rest : String} :
    stripPrefix text lead = some rest ↔ text = lead ++ rest := by
  rw [stripPrefix, Option.map_eq_some_iff]
  constructor
  · rintro ⟨chars, stripped, rfl⟩
    obtain ⟨front, split, same⟩ := dropPrefix?_eq_some_iff.mp stripped
    rw [beq_iff_eq] at same
    rw [← toList_inj, toList_append, toList_ofList, split, same]
  · rintro rfl
    refine ⟨rest.toList, ?_, ofList_toList⟩
    exact dropPrefix?_eq_some_iff.mpr ⟨lead.toList, toList_append, beq_self_eq_true _⟩

theorem trim_of_forall {text : String} (visible : ∀ char ∈ text.toList, isWhitespace char = false) :
    trim text = text := by
  have atFront : text.toList.dropWhile isWhitespace = text.toList := by
    rw [dropWhile_eq_self_iff]
    intro inhabited
    simp [visible _ (getElem_mem inhabited)]
  have atBack : text.toList.rdropWhile isWhitespace = text.toList := by
    rw [rdropWhile_eq_self_iff]
    intro inhabited
    simp [visible _ (getLast_mem inhabited)]
  rw [trim, atFront, atBack, ofList_toList]

theorem toAsciiLowercase_of_forall {text : String} (lower : ∀ char ∈ text.toList, char.toLower = char) :
    toAsciiLowercase text = text := by
  rw [toAsciiLowercase, map_congr_left lower, map_id', ofList_toList]

/-- Two texts whose first parts are free of the delimiter after them agree part by
part. -/
theorem delimited_append_inj {α : Type} {delimiter : α} {first first' back back' : List α}
    (free : delimiter ∉ first) (free' : delimiter ∉ first') :
    first ++ delimiter :: back = first' ++ delimiter :: back' ↔ first = first' ∧ back = back' := by
  constructor
  · intro same
    rcases append_eq_append_iff.mp same with ⟨middle, rfl, tail⟩ | ⟨middle, rfl, tail⟩
    · cases middle with
      | nil => simpa using tail
      | cons char middle =>
        rw [cons_append, cons.injEq] at tail
        simp [← tail.1] at free'
    · cases middle with
      | nil => simpa using tail.symm
      | cons char middle =>
        rw [cons_append, cons.injEq] at tail
        simp [← tail.1] at free
  · rintro ⟨rfl, rfl⟩
    rfl

/-- Two texts whose last parts are free of the delimiter before them agree part by
part. -/
theorem append_delimited_inj {α : Type} {delimiter : α} {front front' last last' : List α}
    (free : delimiter ∉ last) (free' : delimiter ∉ last') :
    front ++ delimiter :: last = front' ++ delimiter :: last' ↔ front = front' ∧ last = last' := by
  have mirrored := @delimited_append_inj α delimiter last.reverse last'.reverse front.reverse front'.reverse
    (by simpa using free) (by simpa using free')
  rw [← reverse_inj, and_comm]
  simpa using mirrored

/-- A first part goes on with another text's second part, and what follows makes up for
it. -/
def Straddles {α : Type} (delimiter : α) (first second third first' second' third' : List α) : Prop :=
  ∃ middle, first' = first ++ delimiter :: (second ++ middle) ∧
    delimiter :: third = middle ++ delimiter :: (second' ++ delimiter :: third')

theorem straddles_of_append {α : Type} {delimiter : α} {first second third second' third' more : List α}
    (free : delimiter ∉ second) (longer : more ≠ [])
    (same : delimiter :: (second ++ delimiter :: third) =
      more ++ delimiter :: (second' ++ delimiter :: third')) :
    Straddles delimiter first second third (first ++ more) second' third' := by
  obtain ⟨head, more, rfl⟩ := exists_cons_of_ne_nil longer
  rw [cons_append, cons.injEq] at same
  obtain ⟨rfl, same⟩ := same
  rcases append_eq_append_iff.mp same with ⟨middle, rfl, tail⟩ | ⟨middle, rfl, tail⟩
  · exact ⟨middle, rfl, tail⟩
  · -- The second part has no delimiter, so it ends where `more` ends.
    cases middle with
    | nil => exact ⟨[], by simp, by simpa using tail.symm⟩
    | cons char middle =>
      rw [cons_append, cons.injEq] at tail
      simp [← tail.1] at free

/-- Three parts joined by a delimiter that the second parts do not contain are the same
parts, or one first part straddles the other's delimiters. -/
theorem joined_eq_iff {α : Type} {delimiter : α} {first second third first' second' third' : List α}
    (free : delimiter ∉ second) (free' : delimiter ∉ second') :
    first ++ delimiter :: (second ++ delimiter :: third) =
        first' ++ delimiter :: (second' ++ delimiter :: third') ↔
      (first = first' ∧ second = second' ∧ third = third') ∨
        Straddles delimiter first second third first' second' third' ∨
          Straddles delimiter first' second' third' first second third := by
  constructor
  · intro same
    rcases append_eq_append_iff.mp same with ⟨more, rfl, tail⟩ | ⟨more, rfl, tail⟩
    · by_cases longer : more = []
      · subst longer
        rw [nil_append, cons.injEq, delimited_append_inj free free'] at tail
        exact .inl ⟨(append_nil first).symm, tail.2⟩
      · exact .inr (Or.inl (straddles_of_append free longer tail))
    · by_cases longer : more = []
      · subst longer
        rw [nil_append, cons.injEq, delimited_append_inj free' free] at tail
        exact .inl ⟨append_nil first', tail.2.1.symm, tail.2.2.symm⟩
      · exact .inr (Or.inr (straddles_of_append free' longer tail))
  · rintro (⟨rfl, rfl, rfl⟩ | ⟨middle, rfl, tail⟩ | ⟨middle, rfl, tail⟩)
    · rfl
    · simp [tail]
    · simp [tail]

theorem not_mem_toList_repr {char : Char} (notDigit : char.isDigit = false) (number : Nat) :
    char ∉ number.repr.toList := by
  intro member
  rw [Nat.repr_eq_ofList_toDigits, toList_ofList] at member
  rw [Nat.isDigit_of_mem_toDigits (by decide) (by decide) member] at notDigit
  exact Bool.noConfusion notDigit

end Text
