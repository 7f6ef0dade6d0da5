import MainsCharts.Proofs.Text.Lines

/-!
# Pieces of a byte stream

There is one way to cut a stream after each of its line feeds (`arePieces_pieces`,
`pieces_flatten`), whether the stream is valid text or not.  A line feed is never a part of
another character, so a stream is valid text exactly when each of its pieces is
(`isSome_decode?_iff`).  Where it is not, there are valid lines up to the first piece
that is none (`exists_legible`).
-/

namespace MainsCharts.Text

set_option autoImplicit false

/-! ## Cutting -/

/-- That pieces are those of a stream: each ends with its line feed and has no other, and the
last one may go without. -/
inductive ArePieces : List (List UInt8) → Prop where
  | nil : ArePieces []
  | last {body : List UInt8} : 0x0A ∉ body → body ≠ [] → ArePieces [body]
  | cons {body : List UInt8} {rest : List (List UInt8)} :
      0x0A ∉ body → ArePieces rest → ArePieces ((body ++ [0x0A]) :: rest)

theorem pieces_cons_newline (rest : List UInt8) :
    pieces (0x0A :: rest) = [0x0A] :: pieces rest := by
  rw [pieces, if_pos rfl]

theorem pieces_append_newline {body : List UInt8} (plain : 0x0A ∉ body) (rest : List UInt8) :
    pieces (body ++ 0x0A :: rest) = (body ++ [0x0A]) :: pieces rest := by
  by_cases nothing : body = []
  · rw [nothing, List.nil_append, pieces_cons_newline, List.nil_append]
  · rw [pieces_append plain nothing, pieces_cons_newline]

/-- **A stream has no other pieces** than those that it is cut into. -/
theorem pieces_flatten {cut : List (List UInt8)} (arePieces : ArePieces cut) :
    pieces cut.flatten = cut := by
  induction arePieces with
  | nil => rfl
  | @last body plain nonempty =>
      have alone := pieces_append plain nonempty []
      rw [List.append_nil] at alone
      rw [List.flatten_singleton, alone]
      rfl
  | cons plain _ ih =>
      rw [List.flatten_cons, List.append_assoc, List.singleton_append,
        pieces_append_newline plain, ih]

theorem arePieces_pieces (bytes : List UInt8) : ArePieces (pieces bytes) := by
  induction bytes with
  | nil => exact .nil
  | cons byte rest ih =>
      rw [pieces]
      split
      · rename_i newline
        rw [newline]
        exact .cons List.not_mem_nil ih
      · rename_i other
        have fresh {body : List UInt8} (plain : 0x0A ∉ body) : 0x0A ∉ byte :: body :=
          List.not_mem_cons_of_ne_of_not_mem (Ne.symm other) plain
        generalize pieces rest = cut at ih
        cases ih with
        | nil => exact .last (fresh List.not_mem_nil) (List.cons_ne_nil _ _)
        | last plain _ => exact .last (fresh plain) (List.cons_ne_nil _ _)
        | cons plain further => exact .cons (fresh plain) further

/-- That a stream ends with a line feed, unless it is empty. -/
def EndsLine (bytes : List UInt8) : Prop :=
  ∀ byte ∈ bytes.getLast?, byte = 0x0A

instance (bytes : List UInt8) : Decidable (EndsLine bytes) :=
  inferInstanceAs (Decidable (∀ byte ∈ bytes.getLast?, byte = 0x0A))

/-- **Pieces do not reach across a line feed**, so what follows one is cut on its own. -/
theorem pieces_append_of_endsLine {bytes : List UInt8} (ends : EndsLine bytes)
    (rest : List UInt8) : pieces (bytes ++ rest) = pieces bytes ++ pieces rest := by
  induction bytes with
  | nil => rfl
  | cons byte bytes ih =>
      by_cases nothing : bytes = []
      · obtain rfl : byte = 0x0A := ends byte (by rw [nothing]; rfl)
        rw [nothing, List.singleton_append, pieces_cons_newline, pieces_cons_newline]
        rfl
      · have endsToo : EndsLine bytes := by
          rwa [EndsLine, List.getLast?_cons_of_ne_nil nothing] at ends
        obtain ⟨first, others, split, _⟩ := exists_pieces_eq_cons nothing
        rw [List.cons_append, pieces, pieces, ih endsToo, split]
        by_cases newline : byte = 0x0A
        · rw [if_pos newline, if_pos newline]
          rfl
        · rw [if_neg newline, if_neg newline]
          rfl

/-- The first of several pieces are pieces themselves. -/
theorem ArePieces.of_append {first second : List (List UInt8)}
    (arePieces : ArePieces (first ++ second)) : ArePieces first := by
  induction first with
  | nil => exact .nil
  | cons piece first ih =>
      rw [List.cons_append] at arePieces
      generalize split : first ++ second = rest at arePieces
      cases arePieces with
      | last plain nonempty =>
          rw [(List.append_eq_nil_iff.mp split).1]
          exact .last plain nonempty
      | cons plain others => exact .cons plain (ih (split ▸ others))

/-! ## Valid lines -/

theorem encode_flatten (lines : List (List Char)) :
    Utf8.encode lines.flatten = (lines.map Utf8.encode).flatten := by
  induction lines with
  | nil => rfl
  | cons line lines ih =>
      rw [List.flatten_cons, Utf8.encode_append, ih, List.map_cons, List.flatten_cons]

theorem map_encode_injective {lines others : List (List Char)}
    (same : lines.map Utf8.encode = others.map Utf8.encode) : lines = others := by
  have decoded := congrArg (List.map Utf8.decode?) same
  simp only [List.map_map, Function.comp_def, Utf8.decode?_encode] at decoded
  exact (List.map_inj_right fun _ _ => Option.some.inj).mp decoded

/-- The bytes of a text are pieces when its lines are cut. -/
theorem arePieces_map_encode_iff {lines : List (List Char)} :
    ArePieces (lines.map Utf8.encode) ↔ IsCut lines := by
  constructor
  · intro arePieces
    have cut := pieces_flatten arePieces
    rw [← encode_flatten, pieces_encode] at cut
    rw [← map_encode_injective cut]
    exact isCut_cutLines _
  · intro isCut
    rw [← cutLines_flatten isCut, ← pieces_encode]
    exact arePieces_pieces _

/-- That the first of several pieces are valid text up to one that is not. -/
structure AreLegible (cut : List (List UInt8)) (lines : List (List Char))
    (rest : List (List UInt8)) : Prop where
  split : cut = lines.map Utf8.encode ++ rest
  stops : ∀ piece ∈ rest.head?, Utf8.decode? piece = none

theorem exists_legible (cut : List (List UInt8)) : ∃ lines rest, AreLegible cut lines rest := by
  induction cut with
  | nil => exact ⟨[], [], rfl, nofun⟩
  | cons piece cut ih =>
      cases reads : Utf8.decode? piece with
      | none =>
          refine ⟨[], piece :: cut, rfl, ?_⟩
          rintro _ ⟨⟩
          exact reads
      | some line =>
          obtain ⟨lines, rest, split, stops⟩ := ih
          refine ⟨line :: lines, rest, ?_, stops⟩
          rw [Utf8.decode?_eq_some_iff.mp reads, split, List.map_cons, List.cons_append]

/-- **A stream is valid text** exactly when nothing stops the reading of its lines. -/
theorem isSome_decode?_iff {bytes : List UInt8} {lines : List (List Char)}
    {rest : List (List UInt8)} (legible : AreLegible (pieces bytes) lines rest) :
    (Utf8.decode? bytes).isSome ↔ rest = [] := by
  constructor
  · intro valid
    obtain ⟨text, reads⟩ := Option.isSome_iff_exists.mp valid
    have split := legible.split
    rw [Utf8.decode?_eq_some_iff.mp reads, pieces_encode] at split
    cases rest with
    | nil => rfl
    | cons piece rest =>
        have member : piece ∈ (cutLines text).map Utf8.encode := by
          rw [split]
          exact List.mem_append_right _ List.mem_cons_self
        obtain ⟨line, -, rfl⟩ := List.mem_map.mp member
        have stopped := legible.stops _ rfl
        rw [Utf8.decode?_encode] at stopped
        exact nomatch stopped
  · rintro rfl
    rw [← flatten_pieces bytes, legible.split, List.append_nil, ← encode_flatten,
      Utf8.decode?_encode]
    rfl

end MainsCharts.Text
