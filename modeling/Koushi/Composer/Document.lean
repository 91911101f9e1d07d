import Koushi.Library.Text

namespace Koushi

open List Text

/-!
# Composer documents

A composer document is a list of inlines: runs of text and atomic mentions.
`ComposerDocument.new` normalises the list, so that no text run is empty and no
two text runs are adjacent.  `truncatedToPlainBytes` cuts the plain body at a
byte limit.  Text is cut at the last character boundary inside the limit; a
mention is kept whole or ends the document.

The loader of persisted drafts truncates what the writer has already truncated.
`truncatedToPlainBytes_idem` is the fact that makes this second cut harmless.
-/

inductive MentionTarget where
  | user (userId displayLabel : String)
  | room (roomId displayLabel : String)
  | roomMention (displayLabel : String)
deriving DecidableEq, Repr

inductive ComposerInline where
  | text (text : String)
  | mention (target : MentionTarget) (displayLabel : String)
deriving DecidableEq, Repr

namespace ComposerInline

/-- The bytes an inline contributes to the plain body; a mention starts with `@`. -/
def plainBytes : ComposerInline -> Nat
  | .text body => body.utf8ByteSize
  | .mention _ displayLabel => 1 + displayLabel.utf8ByteSize

def plainText : ComposerInline -> String
  | .text body => body
  | .mention _ displayLabel => "@" ++ displayLabel

def isText : ComposerInline -> Bool
  | .text _ => true
  | .mention _ _ => false

/-- A text run without characters; normalisation drops it. -/
def isBlank : ComposerInline -> Bool
  | .text body => body.isEmpty
  | .mention _ _ => false

end ComposerInline

variable (normalized : List ComposerInline)

/-- One turn of the normalisation loop. -/
def pushNormalized : ComposerInline -> List ComposerInline
  | .text text =>
    if text.isEmpty then normalized
    else
      match normalized.getLast? with
      | some (.text previous) => normalized.dropLast ++ [.text (previous ++ text)]
      | _ => normalized ++ [.text text]
  | .mention target displayLabel => normalized ++ [.mention target displayLabel]

def normalizeInlines (inlines : List ComposerInline) : List ComposerInline :=
  inlines.foldl pushNormalized []

structure ComposerDocument where
  version : Nat
  inlines : List ComposerInline
deriving DecidableEq, Repr

namespace ComposerDocument

/-- The document version written by every constructor. -/
def VERSION : Nat := 2

def new (inlines : List ComposerInline) : ComposerDocument :=
  { version := VERSION, inlines := normalizeInlines inlines }

def default : ComposerDocument := new []

instance : Inhabited ComposerDocument := ⟨default⟩

def fromPlainText (text : String) : ComposerDocument :=
  new (if text.isEmpty then [] else [.text text])

def plainBody (document : ComposerDocument) : String :=
  document.inlines.foldl (fun body inline => body ++ inline.plainText) ""

def isEmpty (document : ComposerDocument) : Bool :=
  document.inlines.isEmpty

def len (document : ComposerDocument) : Nat :=
  (document.inlines.map ComposerInline.plainBytes).sum

end ComposerDocument

/-- The last character boundary of a text run within the remaining bytes. -/
def truncationEnd (text : String) (remaining : Nat) : Nat :=
  let lastStart := ((charIndices text).takeWhile (fun index => decide (index ≤ remaining))).getLast?.getD 0
  if text.utf8ByteSize ≤ remaining then text.utf8ByteSize else lastStart

/-- The truncation loop, with the bytes that remain before each inline. -/
def truncateInlines : Nat -> List ComposerInline -> List ComposerInline
  | _, [] => []
  | remaining, .text text :: rest =>
    let stop := truncationEnd text remaining
    let kept := if 0 < stop then [.text (sliceTo text stop)] else []
    if stop < text.utf8ByteSize then kept else kept ++ truncateInlines (remaining - stop) rest
  | remaining, .mention target displayLabel :: rest =>
    let bytes := 1 + displayLabel.utf8ByteSize
    if remaining < bytes then []
    else .mention target displayLabel :: truncateInlines (remaining - bytes) rest

def ComposerDocument.truncatedToPlainBytes (document : ComposerDocument) (maximum : Nat) :
    ComposerDocument :=
  ComposerDocument.new (truncateInlines maximum document.inlines)

/-! ## Characters and mentions

The laws of truncation are those of a cut in the list of characters and whole
mentions: neither how the characters are grouped into runs nor normalisation matters. -/

namespace ComposerInline

/-- The characters of a run as runs of their own; a mention is left whole. -/
def atoms : ComposerInline -> List ComposerInline
  | .text body => body.toList.map (fun char => .text (String.singleton char))
  | .mention target displayLabel => [.mention target displayLabel]

theorem plainBytes_eq (inline : ComposerInline) : inline.plainBytes = inline.plainText.utf8ByteSize := by
  cases inline with
  | text body => rfl
  | mention target displayLabel =>
    rw [plainText, String.utf8ByteSize_append]
    rfl

theorem sum_atoms (inline : ComposerInline) : (inline.atoms.map plainBytes).sum = inline.plainBytes := by
  cases inline with
  | text body =>
    rw [atoms, plainBytes, utf8ByteSize_eq, map_map]
    induction body.toList with
    | nil => rfl
    | cons char rest ih => simp [ih, plainBytes, Nat.add_comm]
  | mention target displayLabel => rfl

theorem plainText_atoms (inline : ComposerInline) :
    inline.atoms.flatMap (fun atom => atom.plainText.toList) = inline.plainText.toList := by
  cases inline <;> simp [atoms, plainText, flatMap_map]

end ComposerInline

open ComposerInline

def ComposerDocument.atoms (document : ComposerDocument) : List ComposerInline :=
  document.inlines.flatMap ComposerInline.atoms

theorem truncationEnd_le (text : String) (remaining : Nat) : truncationEnd text remaining ≤ remaining := by
  unfold truncationEnd
  split
  · assumption
  · cases last : ((charIndices text).takeWhile (fun index => decide (index ≤ remaining))).getLast? with
    | none => exact Nat.zero_le _
    | some index => simpa using mem_takeWhile_imp (mem_of_getLast? last)

theorem atoms_truncated (text : String) (remaining : Nat) :
    (ComposerInline.text (sliceTo text (truncationEnd text remaining))).atoms =
      takeWithin plainBytes remaining (ComposerInline.text text).atoms := by
  by_cases fits : text.utf8ByteSize ≤ remaining
  · rw [truncationEnd, if_pos fits, sliceTo_of_le (Nat.le_refl _), takeWithin_of_le]
    exact (ComposerInline.text text).sum_atoms.trans_le fits
  · rw [truncationEnd, if_neg fits]
    rw [utf8ByteSize_eq] at fits
    have exceeds : remaining < 0 + String.utf8Len text.toList := by omega
    rcases takeBytes_lastStart (Nat.zero_le remaining) exceeds with ⟨last, found, _, cut⟩
    have bytes : (fun char => (ComposerInline.text (String.singleton char)).plainBytes) = Char.utf8Size :=
      funext fun char => by simp [plainBytes]
    rw [ComposerInline.atoms, ComposerInline.atoms, takeWithin_map, bytes, sliceTo,
      String.toList_ofList, charIndices, found]
    exact congrArg _ cut

/-- The truncation loop takes the characters and mentions that fit. -/
theorem truncateInlines_atoms (remaining : Nat) (inlines : List ComposerInline) :
    (truncateInlines remaining inlines).flatMap ComposerInline.atoms =
      takeWithin plainBytes remaining (inlines.flatMap ComposerInline.atoms) := by
  induction inlines generalizing remaining with
  | nil => rfl
  | cons inline rest ih =>
    have bytes := inline.sum_atoms
    rw [flatMap_cons]
    cases inline with
    | text text =>
      rw [plainBytes] at bytes
      have cut := atoms_truncated text remaining
      have kept : (if 0 < truncationEnd text remaining then
          [ComposerInline.text (sliceTo text (truncationEnd text remaining))] else []).flatMap
            ComposerInline.atoms =
          (ComposerInline.text (sliceTo text (truncationEnd text remaining))).atoms := by
        split
        · simp
        · next none => simp [Nat.eq_zero_of_not_pos none, sliceTo, ComposerInline.atoms]
      by_cases fits : text.utf8ByteSize ≤ remaining
      · have whole : truncationEnd text remaining = text.utf8ByteSize := if_pos fits
        rw [truncateInlines, if_neg (by omega), flatMap_append, kept, ih, whole,
          sliceTo_of_le (Nat.le_refl _), takeWithin_append_of_le _ (by omega), bytes]
      · have within := truncationEnd_le text remaining
        rw [truncateInlines, if_pos (by omega), kept, cut, takeWithin_append_of_lt _ (by omega)]
    | mention target displayLabel =>
      rw [plainBytes] at bytes
      simp only [truncateInlines]
      split
      · next exceeds =>
        rw [takeWithin_append_of_lt _ (by omega)]
        exact (if_neg (Nat.not_le.mpr exceeds)).symm
      · rw [takeWithin_append_of_le _ (by omega), bytes, flatMap_cons, ih]

variable {inlines : List ComposerInline}

/-! ## Normal form -/

/-- No blank text run, and no two adjacent text runs. -/
structure Normalized (inlines : List ComposerInline) : Prop where
  no_blank : forall inline, inline ∈ inlines -> inline.isBlank = false
  separated : inlines.IsChain (fun left right => ¬(left.isText = true ∧ right.isText = true))

/-- Appending an inline keeps the normal form unless it would join two texts. -/
theorem Normalized.append_singleton (normal : Normalized inlines)
    {inline : ComposerInline} (visible : inline.isBlank = false)
    (apart : forall last, last ∈ inlines.getLast? -> ¬(last.isText = true ∧ inline.isText = true)) :
    Normalized (inlines ++ [inline]) where
  no_blank := by
    intro candidate member
    rcases mem_append.mp member with old | new
    · exact normal.no_blank candidate old
    · rw [mem_singleton.mp new]
      exact visible
  separated := by
    rw [isChain_append]
    refine ⟨normal.separated, isChain_singleton _, ?_⟩
    intro last isLast right isRight
    rw [head?_singleton, Option.mem_some_iff] at isRight
    exact isRight ▸ apart last isLast

theorem Normalized.of_append {left right : List ComposerInline} (normal : Normalized (left ++ right)) :
    Normalized left :=
  ⟨fun inline member => normal.no_blank inline (mem_append_left right member),
    (isChain_append.mp normal.separated).1⟩

/-- What one turn of the loop does to a list that ends in a text run. -/
theorem pushNormalized_join (init : List ComposerInline) (previous text : String) (visible : text ≠ "") :
    pushNormalized (init ++ [.text previous]) (.text text) = init ++ [.text (previous ++ text)] := by
  simp [pushNormalized, visible]

/-- In every other case a visible inline is appended. -/
theorem pushNormalized_append {normalized : List ComposerInline} {inline : ComposerInline}
    (visible : inline.isBlank = false)
    (apart : forall last, last ∈ normalized.getLast? -> ¬(last.isText = true ∧ inline.isText = true)) :
    pushNormalized normalized inline = normalized ++ [inline] := by
  cases inline with
  | mention target displayLabel => rfl
  | text text =>
    simp only [isBlank] at visible
    simp only [pushNormalized, visible, Bool.false_eq_true, if_false]
    split
    · next previous isLast => exact absurd ⟨rfl, rfl⟩ (apart _ isLast)
    · rfl

variable {inline : ComposerInline}

theorem pushNormalized_normalized {normalized : List ComposerInline} (normal : Normalized normalized) : Normalized (pushNormalized normalized inline) := by
  cases blank : inline.isBlank with
  | true =>
    cases inline with
    | mention target displayLabel => cases blank
    | text text =>
      simp only [isBlank] at blank
      simpa only [pushNormalized, blank, if_true] using normal
  | false =>
    by_cases joins : ∃ last, last ∈ normalized.getLast? ∧ last.isText = true ∧ inline.isText = true
    · obtain ⟨last, isLast, lastText, inlineText⟩ := joins
      obtain ⟨init, rfl⟩ := getLast?_eq_some_iff.mp isLast
      cases last with
      | mention target displayLabel => cases lastText
      | text previous =>
        cases inline with
        | mention target displayLabel => cases inlineText
        | text text =>
          have visible : text ≠ "" := by simpa [isBlank] using blank
          rw [pushNormalized_join init previous text visible]
          refine normal.of_append.append_singleton (by simp [isBlank, visible]) ?_
          intro before isBefore
          exact (isChain_append.mp normal.separated).2.2 before isBefore (.text previous) rfl
    · have apart : forall last, last ∈ normalized.getLast? ->
          ¬(last.isText = true ∧ inline.isText = true) :=
        fun last isLast both => joins ⟨last, isLast, both⟩
      rw [pushNormalized_append blank apart]
      exact normal.append_singleton blank apart

theorem normalizeInlines_normalized : Normalized (normalizeInlines inlines) :=
  foldlRecOn inlines pushNormalized ⟨by simp, isChain_nil⟩
    (fun _ normal inline _ => pushNormalized_normalized normal)

theorem normalizeInlines_of_normalized (normal : Normalized inlines) :
    normalizeInlines inlines = inlines := by
  suffices general : forall acc, Normalized (acc ++ inlines) ->
      inlines.foldl pushNormalized acc = acc ++ inlines from general [] normal
  clear normal
  induction inlines with
  | nil => simp
  | cons inline rest ih =>
    intro acc normal
    have visible := normal.no_blank inline (by simp)
    have apart : forall last, last ∈ acc.getLast? -> ¬(last.isText = true ∧ inline.isText = true) :=
      fun last isLast => (isChain_append.mp normal.separated).2.2 last isLast inline (by simp)
    rw [foldl_cons, pushNormalized_append visible apart, ih _ (by simpa using normal)]
    simp

/-- Two runs in turn are one run. -/
theorem pushNormalized_text_append (first second : String) :
    pushNormalized (pushNormalized normalized (.text first)) (.text second) =
      pushNormalized normalized (.text (first ++ second)) := by
  by_cases blank : second = ""
  · simp [pushNormalized, blank]
  by_cases empty : first = ""
  · simp [pushNormalized, empty]
  have joined : first ++ second ≠ "" := by simp [blank]
  by_cases joins : ∃ last, last ∈ normalized.getLast? ∧ last.isText = true
  · rcases joins with ⟨_ | _, isLast, lastText⟩
    · rcases getLast?_eq_some_iff.mp isLast with ⟨init, rfl⟩
      rw [pushNormalized_join _ _ _ empty, pushNormalized_join _ _ _ blank, pushNormalized_join _ _ _ joined,
        String.append_assoc]
    · cases lastText
  · have apart (text : String) : forall last, last ∈ normalized.getLast? ->
        ¬(last.isText = true ∧ (ComposerInline.text text).isText = true) :=
      fun last isLast both => joins ⟨last, isLast, both.1⟩
    rw [pushNormalized_append (by simpa [isBlank] using empty) (apart first),
      pushNormalized_append (by simpa [isBlank] using joined) (apart _),
      pushNormalized_join _ _ _ blank]

theorem foldl_pushNormalized_atoms :
    inline.atoms.foldl pushNormalized normalized = pushNormalized normalized inline := by
  cases inline with
  | mention target displayLabel => rfl
  | text body =>
    rw [← String.ofList_toList (s := body), ComposerInline.atoms, String.toList_ofList]
    induction body.toList generalizing normalized with
    | nil => rfl
    | cons char rest ih =>
      have split : String.singleton char ++ String.ofList rest = String.ofList (char :: rest) := by
        simp
      rw [map_cons, foldl_cons, ih, pushNormalized_text_append, split]

/-- A normal form depends only on the characters and mentions. -/
theorem normalizeInlines_eq_atoms :
    normalizeInlines inlines = normalizeInlines (inlines.flatMap ComposerInline.atoms) := by
  unfold normalizeInlines
  generalize [] = normalized
  induction inlines generalizing normalized with
  | nil => rfl
  | cons inline rest ih =>
    rw [flatMap_cons, foldl_append, foldl_pushNormalized_atoms, foldl_cons, ih]

theorem atoms_pushNormalized : (pushNormalized normalized inline).flatMap ComposerInline.atoms =
      normalized.flatMap ComposerInline.atoms ++ inline.atoms := by
  cases inline with
  | mention target displayLabel => simp [pushNormalized]
  | text text =>
    by_cases blank : text = ""
    · simp [pushNormalized, blank, ComposerInline.atoms]
    · simp only [pushNormalized, String.isEmpty_eq_false_iff.mpr blank, Bool.false_eq_true, if_false]
      split
      · next previous isLast =>
        rcases getLast?_eq_some_iff.mp isLast with ⟨init, rfl⟩
        simp [ComposerInline.atoms]
      · simp

theorem atoms_normalizeInlines :
    (normalizeInlines inlines).flatMap ComposerInline.atoms = inlines.flatMap ComposerInline.atoms := by
  suffices general : forall normalized, (inlines.foldl pushNormalized normalized).flatMap ComposerInline.atoms =
      normalized.flatMap ComposerInline.atoms ++ inlines.flatMap ComposerInline.atoms from general []
  induction inlines with
  | nil => simp
  | cons inline rest ih =>
    intro normalized
    rw [foldl_cons, ih, flatMap_cons, ← append_assoc, atoms_pushNormalized]

namespace ComposerDocument

variable (document : ComposerDocument) (maximum : Nat)

theorem atoms_truncatedToPlainBytes : (document.truncatedToPlainBytes maximum).atoms =
      takeWithin plainBytes maximum document.atoms := by
  rw [atoms, truncatedToPlainBytes, new, atoms_normalizeInlines, truncateInlines_atoms]
  rfl

theorem truncatedToPlainBytes_eq : document.truncatedToPlainBytes maximum =
      new (takeWithin plainBytes maximum document.atoms) := by
  rw [truncatedToPlainBytes, new, normalizeInlines_eq_atoms, truncateInlines_atoms]
  rfl

theorem truncatedToPlainBytes_min (first second : Nat) :
    (document.truncatedToPlainBytes first).truncatedToPlainBytes second =
      document.truncatedToPlainBytes (min first second) := by
  rw [truncatedToPlainBytes_eq, atoms_truncatedToPlainBytes, takeWithin_takeWithin,
    ← truncatedToPlainBytes_eq]

/-- Truncating twice at one limit is truncating once. -/
theorem truncatedToPlainBytes_idem :
    (document.truncatedToPlainBytes maximum).truncatedToPlainBytes maximum =
      document.truncatedToPlainBytes maximum := by
  rw [truncatedToPlainBytes_min, Nat.min_self]

theorem toList_plainBody :
    document.plainBody.toList = document.atoms.flatMap (fun atom => atom.plainText.toList) := by
  suffices general : forall (inlines : List ComposerInline) (body : String),
      (inlines.foldl (fun body inline => body ++ inline.plainText) body).toList =
        body.toList ++ (inlines.flatMap ComposerInline.atoms).flatMap (fun atom => atom.plainText.toList) from
    general document.inlines ""
  intro inlines
  induction inlines with
  | nil => simp
  | cons inline rest ih =>
    intro body
    rw [foldl_cons, ih, flatMap_cons, flatMap_append, inline.plainText_atoms, String.toList_append, append_assoc]

theorem utf8ByteSize_plainBody :
    document.plainBody.utf8ByteSize = (document.atoms.map plainBytes).sum := by
  rw [utf8ByteSize_eq, toList_plainBody]
  induction document.atoms with
  | nil => rfl
  | cons atom rest ih =>
    rw [flatMap_cons, String.utf8Len_append, ih, map_cons, sum_cons, atom.plainBytes_eq, utf8ByteSize_eq]

/-- Truncation cuts the plain body at a limit, between characters and mentions. -/
theorem truncated_document_is_front (document : ComposerDocument) (maximum : Nat) :
    let truncated := document.truncatedToPlainBytes maximum
    truncated.plainBody.toList <+: document.plainBody.toList ∧
    truncated.plainBody.utf8ByteSize ≤ maximum ∧
    truncated.atoms <+: document.atoms ∧
    Normalized truncated.inlines ∧
    (document.plainBody.utf8ByteSize ≤ maximum -> truncated = new document.inlines ∧
      (Normalized document.inlines -> document.version = VERSION -> truncated = document)) ∧
    truncated.truncatedToPlainBytes maximum = truncated ∧
    ∀ other, truncated.truncatedToPlainBytes other = document.truncatedToPlainBytes (min maximum other) := by
  intro truncated
  have taken : truncated.atoms = takeWithin plainBytes maximum document.atoms :=
    document.atoms_truncatedToPlainBytes maximum
  have front : truncated.atoms <+: document.atoms := taken ▸ takeWithin_isPrefix _ _
  refine ⟨?_, ?_, front, normalizeInlines_normalized, ?_, document.truncatedToPlainBytes_idem maximum,
    document.truncatedToPlainBytes_min maximum⟩
  · rw [toList_plainBody, toList_plainBody]
    exact front.flatMap _
  · rw [utf8ByteSize_plainBody, taken]
    exact sum_takeWithin_le _ _
  · intro fits
    rw [utf8ByteSize_plainBody] at fits
    have whole : truncated = new document.inlines := by
      show document.truncatedToPlainBytes maximum = _
      rw [truncatedToPlainBytes_eq, takeWithin_of_le fits, new, atoms, ← normalizeInlines_eq_atoms]
      rfl
    refine ⟨whole, fun normal current => ?_⟩
    rw [whole, new, normalizeInlines_of_normalized normal, ← current]

/-- A document that was not built by a constructor is normalised by the cut. -/
theorem unnormalized_document_changed : (⟨2, [.text ""]⟩ : ComposerDocument).plainBody.utf8ByteSize ≤ 1 ∧
      (⟨2, [.text ""]⟩ : ComposerDocument).truncatedToPlainBytes 1 ≠ ⟨2, [.text ""]⟩ := by
  decide +kernel

end ComposerDocument

end Koushi
