import ClientGen.Text.Identifier
import Mathlib.Data.List.Basic

/-!
# Texts in pieces

The pieces of a text are told by where they stand: no identifier is followed by a character
that could go on with it, and no character between identifiers could start one. A text falls
into such pieces in one way only. So texts with such a character between them have the
identifiers of both, and a text where each identifier is replaced by another one has the
replaced identifiers.
-/

namespace ClientGen.Text

/-- Whether pieces start with no character that could go on with an identifier before them. -/
def StartApart : List Piece → Prop
  | [] => True
  | .identifier _ :: _ => False
  | .between c :: _ => isIdentifierPart c = false

/-- Pieces as they stand in a text. -/
inductive Separated : List Piece → Prop where
  | nil : Separated []
  | between {c : Char} {ps : List Piece} (hc : isIdentifierStart c = false)
      (h : Separated ps) : Separated (.between c :: ps)
  | identifier {cs : List Char} {ps : List Piece} (hcs : isIdentifier cs)
      (hps : StartApart ps) (h : Separated ps) : Separated (.identifier cs :: ps)

theorem isIdentifierStart_of_part {c : Char} (h : isIdentifierPart c = false) :
  isIdentifierStart c = false
  := (Bool.or_eq_false_iff.mp h).1

/-- An identifier that is followed by nothing or by a separate character is read as a whole. -/
theorem piecesFrom_append {current cs : List Char} (hcurrent : current ≠ [])
    (hcs : cs.all isIdentifierPart) {ps : List Piece} (hps : StartApart ps) :
  piecesFrom current (cs ++ ps.flatMap Piece.chars)
    = .identifier (current ++ cs) :: pieces (ps.flatMap Piece.chars)
  := by
  induction cs generalizing current with
  | nil =>
    obtain ⟨d, ds, rfl⟩ := List.exists_cons_of_ne_nil hcurrent
    match ps with
    | [] => simp [piecesFrom, pieces, flush]
    | .between c :: ps =>
      obtain ⟨hstart, hdigit⟩ := Bool.or_eq_false_iff.mp hps
      simp [piecesFrom, pieces, Piece.chars, flush, hstart, hdigit]
  | cons c cs ih =>
    obtain ⟨hc, hcs⟩ := Bool.and_eq_true_iff.mp hcs
    have hgo : (isIdentifierStart c || !current.isEmpty && c.isDigit) = true := by
      rcases Bool.or_eq_true_iff.mp hc with hstart | hdigit
      · simp [hstart]
      · simp [hdigit, hcurrent]
    rw [List.cons_append, piecesFrom, if_pos hgo, ih (by simp) hcs, List.append_assoc,
      List.singleton_append]

/-- A text is taken apart into the separated pieces that make it up. -/
theorem Separated.pieces_chars {ps : List Piece} (h : Separated ps) :
  pieces (ps.flatMap Piece.chars) = ps
  := by
  induction h with
  | nil => rfl
  | @between c ps hc _ ih =>
    rw [List.flatMap_cons, Piece.chars, pieces, List.singleton_append, piecesFrom]
    simpa [hc, flush, pieces] using ih
  | @identifier cs ps hcs hps _ ih =>
    cases cs with
    | nil => cases hcs
    | cons c cs =>
      obtain ⟨hstart, hrest⟩ := Bool.and_eq_true_iff.mp hcs
      have hread := piecesFrom_append (List.cons_ne_nil c []) hrest hps
      rw [ih] at hread
      rw [List.flatMap_cons, Piece.chars, pieces, List.cons_append, piecesFrom]
      simpa [hstart] using hread

/-- What has been read of an identifier. -/
def IsBeginning (current : List Char) : Prop :=
  current = [] ∨ isIdentifier current

/-- An identifier goes on with a character that may start or follow one. -/
theorem IsBeginning.append {current : List Char} (h : IsBeginning current) {c : Char}
    (hc : isIdentifierStart c || (!current.isEmpty && c.isDigit)) :
  IsBeginning (current ++ [c])
  := by
  right
  rcases h with rfl | h
  · simpa [isIdentifier] using hc
  · cases current with
    | nil => cases h
    | cons d ds =>
      obtain ⟨hd, hds⟩ := Bool.and_eq_true_iff.mp h
      have hpart : isIdentifierPart c := by simpa [isIdentifierPart] using hc
      simp [isIdentifier, hd, List.all_append, hds, hpart]

/-- What has been read of an identifier is a piece before a character that cannot go on with
it. -/
theorem IsBeginning.separated_flush {current : List Char} (h : IsBeginning current)
    {ps : List Piece} (hps : current ≠ [] → StartApart ps) (hseparated : Separated ps) :
  Separated (flush current ++ ps)
  := by
  cases current with
  | nil => exact hseparated
  | cons d ds =>
    apply Separated.identifier (h.resolve_left (List.cons_ne_nil d ds)) _ hseparated
    apply hps (List.cons_ne_nil d ds)

theorem separated_piecesFrom {current : List Char} (h : IsBeginning current) (cs : List Char) :
  Separated (piecesFrom current cs)
  := by
  induction cs generalizing current with
  | nil =>
    have hapart : StartApart [] := trivial
    simpa [piecesFrom] using h.separated_flush (fun _ => hapart) .nil
  | cons c cs ih =>
    rw [piecesFrom]
    split
    case isTrue hc => apply ih (h.append hc)
    case isFalse hc =>
      obtain ⟨hstart, hdigit⟩ := Bool.or_eq_false_iff.mp (Bool.eq_false_iff.mpr hc)
      apply h.separated_flush
      · intro hne
        simpa [StartApart, isIdentifierPart, hstart, hne] using hdigit
      · apply Separated.between hstart
        apply ih (Or.inl rfl)

/-- The pieces of a text are separated. -/
theorem separated_pieces (cs : List Char) :
  Separated (pieces cs)
  := separated_piecesFrom (Or.inl rfl) cs

/-- The pieces of a text are the only separated ones that make it up. -/
theorem pieces_eq_iff (cs : List Char) (ps : List Piece) :
  pieces cs = ps ↔ Separated ps ∧ ps.flatMap Piece.chars = cs
  := by
  constructor
  · rintro rfl
    exact ⟨separated_pieces cs, pieces_chars cs⟩
  · rintro ⟨h, rfl⟩
    apply h.pieces_chars

/-! ### Identifiers of texts side by side -/

theorem Separated.append {ps qs : List Piece} (hps : Separated ps) (hqs : Separated qs)
    (hapart : StartApart qs) :
  Separated (ps ++ qs)
  := by
  induction hps with
  | nil => exact hqs
  | between hc _ ih => exact ih.between hc
  | @identifier cs ps hcs hps _ ih =>
    apply ih.identifier hcs
    cases ps with
    | nil => exact hapart
    | cons p ps => cases p <;> exact hps

/-- A character that belongs to no identifier keeps the pieces before and after it apart. -/
theorem pieces_append_cons {c : Char} (hc : isIdentifierPart c = false) (as bs : List Char) :
  pieces (as ++ c :: bs) = pieces as ++ .between c :: pieces bs
  := by
  apply (pieces_eq_iff _ _).mpr
  constructor
  · apply (separated_pieces as).append
    · apply (separated_pieces bs).between (isIdentifierStart_of_part hc)
    · exact hc
  · simp [pieces_chars, Piece.chars]

/-- Whether a text starts with a character that belongs to no identifier. -/
def startsApart (text : String) : Bool :=
  text.toList.head?.any fun c => !isIdentifierPart c

/-- Whether a text ends with a character that belongs to no identifier. -/
def endsApart (text : String) : Bool :=
  text.toList.getLast?.any fun c => !isIdentifierPart c

theorem startsApart_iff (text : String) :
  startsApart text ↔ ∃ c cs, isIdentifierPart c = false ∧ text.toList = c :: cs
  := by
  simp only [startsApart, Option.any_eq_true, List.head?_eq_some_iff, Bool.not_eq_true']
  constructor
  · rintro ⟨c, ⟨cs, hcs⟩, hc⟩
    exact ⟨c, cs, hc, hcs⟩
  · rintro ⟨c, cs, hc, hcs⟩
    exact ⟨c, ⟨cs, hcs⟩, hc⟩

theorem endsApart_iff (text : String) :
  endsApart text ↔ ∃ cs c, isIdentifierPart c = false ∧ text.toList = cs ++ [c]
  := by
  simp only [endsApart, Option.any_eq_true, List.getLast?_eq_some_iff, Bool.not_eq_true']
  constructor
  · rintro ⟨c, ⟨cs, hcs⟩, hc⟩
    exact ⟨cs, c, hc, hcs⟩
  · rintro ⟨cs, c, hc, hcs⟩
    exact ⟨c, ⟨cs, hcs⟩, hc⟩

theorem startsApart_append {a : String} (h : startsApart a) (b : String) :
  startsApart (a ++ b)
  := by
  obtain ⟨c, cs, hc, hcs⟩ := (startsApart_iff a).mp h
  apply (startsApart_iff _).mpr
  exact ⟨c, cs ++ b.toList, hc, by simp [hcs]⟩

/-- Where the one text ends or the other one starts with a character that belongs to no
identifier, the identifiers are those of both. -/
theorem identifiers_append {a b : String} (h : endsApart a ∨ startsApart b) :
  identifiers (a ++ b) = identifiers a ++ identifiers b
  := by
  have hpieces : pieces (a.toList ++ b.toList) = pieces a.toList ++ pieces b.toList := by
    rcases h with h | h
    · obtain ⟨cs, c, hc, hcs⟩ := (endsApart_iff a).mp h
      have hlast := pieces_append_cons hc cs []
      have hjoin := pieces_append_cons hc cs b.toList
      rw [hcs, hlast, List.append_assoc, List.singleton_append, hjoin, List.append_assoc]
      rfl
    · obtain ⟨c, cs, hc, hcs⟩ := (startsApart_iff b).mp h
      have hfirst := pieces_append_cons hc [] cs
      rw [List.nil_append] at hfirst
      rw [hcs, hfirst, pieces_append_cons hc]
      rfl
  rw [identifiers, String.toList_append, hpieces, List.filterMap_append, identifiers, identifiers]

/-- The only identifier of a text that is an identifier. -/
theorem identifiers_of_isIdentifier {text : String} (h : isIdentifier text.toList) :
  identifiers text = [text]
  := by
  have hpieces : pieces text.toList = [.identifier text.toList] := by
    apply (pieces_eq_iff _ _).mpr
    exact ⟨.identifier h trivial .nil, by simp [Piece.chars]⟩
  simp [identifiers, hpieces]

/-! ### Texts with other identifiers -/

/-- A piece with the identifier replaced. -/
def Piece.map (f : String → String) : Piece → Piece
  | .identifier cs => .identifier (f (String.ofList cs)).toList
  | .between c => .between c

/-- Pieces that are separated stay separated when identifiers are replaced by identifiers. -/
theorem Separated.map {ps : List Piece} (h : Separated ps) {f : String → String}
    (hf : ∀ name, isIdentifier name.toList → isIdentifier (f name).toList) :
  Separated (ps.map (Piece.map f))
  := by
  induction h with
  | nil => exact .nil
  | between hc _ ih => exact ih.between hc
  | @identifier cs ps hcs hps _ ih =>
    apply ih.identifier
    · apply hf
      simpa using hcs
    · cases ps with
      | nil => trivial
      | cons p ps => cases p <;> exact hps

theorem toList_mapIdentifiers (f : String → String) (text : String) :
  (mapIdentifiers f text).toList = ((pieces text.toList).map (Piece.map f)).flatMap Piece.chars
  := by
  rw [mapIdentifiers, String.toList_ofList, List.flatMap_map]
  apply List.flatMap_congr
  rintro (cs | c) - <;> rfl

/-- Identifiers that are replaced by identifiers are the identifiers of the new text. -/
theorem identifiers_mapIdentifiers {f : String → String}
    (hf : ∀ name, isIdentifier name.toList → isIdentifier (f name).toList) (text : String) :
  identifiers (mapIdentifiers f text) = (identifiers text).map f
  := by
  rw [identifiers, toList_mapIdentifiers, ((separated_pieces text.toList).map hf).pieces_chars,
    identifiers, List.filterMap_map, List.map_filterMap]
  apply List.filterMap_congr
  rintro (cs | c) - <;> simp [Piece.map]

theorem mem_identifiers {text name : String} :
  name ∈ identifiers text ↔ .identifier name.toList ∈ pieces text.toList
  := by
  rw [identifiers, List.mem_filterMap]
  constructor
  · rintro ⟨cs | c, hp, heq⟩
    · obtain rfl := Option.some.inj heq
      simpa using hp
    · cases heq
  · intro h
    exact ⟨_, h, by simp⟩

/-- A text is got back when each new identifier is replaced by the one that it stands for. -/
theorem mapIdentifiers_mapIdentifiers {f g : String → String}
    (hf : ∀ name, isIdentifier name.toList → isIdentifier (f name).toList) {text : String}
    (h : ∀ name ∈ identifiers text, g (f name) = name) :
  mapIdentifiers g (mapIdentifiers f text) = text
  := by
  have hback : ∀ p ∈ pieces text.toList, (p.map f).map g = p := by
    rintro (cs | c) hp
    · have hname := h (String.ofList cs) (mem_identifiers.mpr (by simpa using hp))
      simp [Piece.map, hname]
    · rfl
  have hmap : ((pieces text.toList).map (Piece.map f)).map (Piece.map g) = pieces text.toList := by
    rw [List.map_map]
    apply Eq.trans _ (List.map_id _)
    apply List.map_congr_left hback
  rw [← String.toList_inj, toList_mapIdentifiers, toList_mapIdentifiers,
    ((separated_pieces text.toList).map hf).pieces_chars, hmap, pieces_chars]

end ClientGen.Text
