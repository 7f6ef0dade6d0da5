import MainsCharts.Text.Utf8

/-!
# UTF-8 as a code

The bytes of a text are read back as that text, whatever bytes stand behind them
(`items_encode_append`), and the strict reading accepts no other bytes
(`decode?_eq_some_iff`).  So a byte sequence that is valid text can be taken for the
text itself.

Both halves follow the machine from one byte to the next.  Inside a character it goes on
with a byte in range only (`exists_of_run_owed`), and each kind of first byte leaves it with the
range that its own characters have there.
-/

namespace MainsCharts.Text.Utf8

set_option autoImplicit false

/-! ## Bytes inside a character -/

theorem run_start_cons (byte : UInt8) (rest : List UInt8) :
    run .start (byte :: rest) = (begin byte.toNat).1 ++ run (begin byte.toNat).2 rest :=
  rfl

section Owed

variable {least greatest value : Nat} {byte : UInt8}

/-- The last byte of a character. -/
theorem run_last (inRange : least ≤ byte.toNat ∧ byte.toNat ≤ greatest) (rest : List UInt8) :
    run ⟨1, least, greatest, value⟩ (byte :: rest) =
      some (Char.ofNat (value * 64 + (byte.toNat - 0x80))) :: items rest := by
  simp [run, step, inRange, items]

/-- A byte of a character that others follow. -/
theorem run_further (owed : Nat) (inRange : least ≤ byte.toNat ∧ byte.toNat ≤ greatest)
    (rest : List UInt8) :
    run ⟨owed + 2, least, greatest, value⟩ (byte :: rest) =
      run (.after (owed + 1) (value * 64 + (byte.toNat - 0x80))) rest := by
  simp [run, step, inRange]

/-- What is read without a malformed part inside a character goes on with a byte in range. -/
theorem exists_of_run_owed {owed : Nat} {bytes : List UInt8} {text : List Char}
    (reads : run ⟨owed + 1, least, greatest, value⟩ bytes = text.map some) :
    ∃ byte rest, bytes = byte :: rest ∧ least ≤ byte.toNat ∧ byte.toNat ≤ greatest := by
  have malformed {items : List (Option Char)} : none :: items ≠ text.map some := by
    intro same
    cases text with
    | nil => exact nomatch same
    | cons character text => exact nomatch (List.cons.inj same).1
  cases bytes with
  | nil => exact absurd reads malformed
  | cons byte rest =>
      by_cases inRange : least ≤ byte.toNat ∧ byte.toNat ≤ greatest
      · exact ⟨byte, rest, rfl, inRange⟩
      · simp only [run, step, if_neg inRange, Nat.succ_ne_zero, if_false, List.cons_append] at reads
        exact absurd reads malformed

end Owed

/-! ## First bytes -/

section First

variable {byte : Nat}

theorem begin_one (one : byte ≤ 0x7F) : begin byte = ([some (Char.ofNat byte)], .start) :=
  if_pos one

theorem begin_two (two : 0xC2 ≤ byte ∧ byte ≤ 0xDF) :
    begin byte = ([], .after 1 (byte - 0xC0)) := by
  have notOne : ¬ byte ≤ 0x7F := by omega
  rw [begin, if_neg notOne, if_pos two]

theorem begin_three (three : 0xE0 ≤ byte ∧ byte ≤ 0xEF) :
    begin byte =
      ([], ⟨2, if byte = 0xE0 then 0xA0 else 0x80, if byte = 0xED then 0x9F else 0xBF,
        byte - 0xE0⟩) := by
  have notOne : ¬ byte ≤ 0x7F := by omega
  have notTwo : ¬ (0xC2 ≤ byte ∧ byte ≤ 0xDF) := by omega
  rw [begin, if_neg notOne, if_neg notTwo]
  by_cases least : byte = 0xE0
  · subst least
    rfl
  by_cases surrogates : byte = 0xED
  · subst surrogates
    rfl
  have plain : 0xE1 ≤ byte ∧ byte ≤ 0xEF := by omega
  rw [if_neg least, if_neg surrogates, if_pos plain, if_neg least, if_neg surrogates]
  rfl

theorem begin_four (four : 0xF0 ≤ byte ∧ byte ≤ 0xF4) :
    begin byte =
      ([], ⟨3, if byte = 0xF0 then 0x90 else 0x80, if byte = 0xF4 then 0x8F else 0xBF,
        byte - 0xF0⟩) := by
  have notOne : ¬ byte ≤ 0x7F := by omega
  have notTwo : ¬ (0xC2 ≤ byte ∧ byte ≤ 0xDF) := by omega
  have notThree : ¬ (0xE1 ≤ byte ∧ byte ≤ 0xEF) := by omega
  rw [begin, if_neg notOne, if_neg notTwo, if_neg (by omega), if_neg (by omega), if_neg notThree]
  by_cases least : byte = 0xF0
  · subst least
    rfl
  by_cases greatest : byte = 0xF4
  · subst greatest
    rfl
  have plain : 0xF1 ≤ byte ∧ byte ≤ 0xF3 := by omega
  rw [if_neg least, if_pos plain, if_neg least, if_neg greatest]
  rfl

/-- Any other byte starts no character. -/
theorem begin_other (other : 0x7F < byte ∧ byte < 0xC2 ∨ 0xF4 < byte) :
    begin byte = ([none], .start) := by
  have notOne : ¬ byte ≤ 0x7F := by omega
  have notTwo : ¬ (0xC2 ≤ byte ∧ byte ≤ 0xDF) := by omega
  have notThree : ¬ (0xE1 ≤ byte ∧ byte ≤ 0xEF) := by omega
  have notFour : ¬ (0xF1 ≤ byte ∧ byte ≤ 0xF3) := by omega
  rw [begin, if_neg notOne, if_neg notTwo, if_neg (by omega), if_neg (by omega), if_neg notThree,
    if_neg (by omega), if_neg notFour, if_neg (by omega)]

end First

/-! ## Characters -/

/-- A number is the code of the character that it is read as, unless it is that of a surrogate
or too large. -/
theorem toNat_val_ofNat {code : Nat} (valid : code < 0xD800 ∨ 0xDFFF < code ∧ code < 0x110000) :
    (Char.ofNat code).val.toNat = code := by
  have isValid : code.isValidChar := valid
  rw [Char.ofNat, dif_pos isValid]
  rfl


/-- A character is read from its bytes. -/
theorem items_encodeChar_append (character : Char) (rest : List UInt8) :
    items (String.utf8EncodeChar character ++ rest) = some character :: items rest := by
  have valid : character.val.toNat < 0xD800 ∨
      0xDFFF < character.val.toNat ∧ character.val.toNat < 0x110000 := character.valid
  have isCode : Char.ofNat character.val.toNat = character := Char.ofNat_toNat character
  rw [String.utf8EncodeChar, items]
  generalize character.val.toNat = code at valid isCode
  have small {number : Nat} (bound : number < 256) : (UInt8.ofNat number).toNat = number :=
    UInt8.toNat_ofNat_of_lt' bound
  split
  · rename_i one
    rw [List.singleton_append, run_start_cons, small (by omega), begin_one one, isCode]
    rfl
  split
  · rename_i two
    have lead := small (by omega : code / 64 % 32 + 0xC0 < 256)
    have last := small (by omega : code % 64 + 0x80 < 256)
    rw [List.cons_append, List.singleton_append, run_start_cons, lead, begin_two (by omega),
      List.nil_append, State.after, run_last (by omega), last]
    rw [show (code / 64 % 32 + 0xC0 - 0xC0) * 64 + (code % 64 + 0x80 - 0x80) = code by omega,
      isCode]
  split
  · rename_i three
    have lead := small (by omega : code / 4096 % 16 + 0xE0 < 256)
    have second := small (by omega : code / 64 % 64 + 0x80 < 256)
    have last := small (by omega : code % 64 + 0x80 < 256)
    rw [List.cons_append, List.cons_append, List.singleton_append, run_start_cons, lead,
      begin_three (by omega), List.nil_append, run_further, State.after, run_last (by omega),
      second, last]
    · rw [show ((code / 4096 % 16 + 0xE0 - 0xE0) * 64 + (code / 64 % 64 + 0x80 - 0x80)) * 64 +
        (code % 64 + 0x80 - 0x80) = code by omega, isCode]
    · rw [second]
      split <;> split <;> omega
  · rename_i notOne notTwo four
    have lead := small (by omega : code / 262144 % 8 + 0xF0 < 256)
    have second := small (by omega : code / 4096 % 64 + 0x80 < 256)
    have third := small (by omega : code / 64 % 64 + 0x80 < 256)
    have last := small (by omega : code % 64 + 0x80 < 256)
    rw [List.cons_append, List.cons_append, List.cons_append, List.singleton_append,
      run_start_cons, lead, begin_four (by omega), List.nil_append, run_further, State.after,
      run_further 0 (by omega), State.after, run_last (by omega), second, third, last]
    · rw [show (((code / 262144 % 8 + 0xF0 - 0xF0) * 64 + (code / 4096 % 64 + 0x80 - 0x80)) * 64 +
        (code / 64 % 64 + 0x80 - 0x80)) * 64 + (code % 64 + 0x80 - 0x80) = code by omega, isCode]
    · rw [second]
      split <;> split <;> omega

/-! ## Bytes -/

section Bytes

variable {byte : UInt8} {bytes : List UInt8} {text : List Char}

theorem ofNat_eq_of_eq_toNat {number : Nat} (same : number = byte.toNat) :
    UInt8.ofNat number = byte := by
  rw [same, UInt8.ofNat_toNat]

theorem exists_of_run_two (two : 0xC2 ≤ byte.toNat ∧ byte.toNat ≤ 0xDF)
    (reads : run (.after 1 (byte.toNat - 0xC0)) bytes = text.map some) :
    ∃ character rest, byte :: bytes = String.utf8EncodeChar character ++ rest := by
  obtain ⟨second, rest, rfl, above, below⟩ := exists_of_run_owed reads
  refine ⟨Char.ofNat ((byte.toNat - 0xC0) * 64 + (second.toNat - 0x80)), rest, ?_⟩
  rw [String.utf8EncodeChar, toNat_val_ofNat (by omega), if_neg (by omega), if_pos (by omega),
    ofNat_eq_of_eq_toNat (by omega : _ = byte.toNat),
    ofNat_eq_of_eq_toNat (by omega : _ = second.toNat)]
  rfl

theorem exists_of_run_three (three : 0xE0 ≤ byte.toNat ∧ byte.toNat ≤ 0xEF)
    (reads : run ⟨2, if byte.toNat = 0xE0 then 0xA0 else 0x80,
      if byte.toNat = 0xED then 0x9F else 0xBF, byte.toNat - 0xE0⟩ bytes = text.map some) :
    ∃ character rest, byte :: bytes = String.utf8EncodeChar character ++ rest := by
  obtain ⟨second, bytes, rfl, above, below⟩ := exists_of_run_owed reads
  rw [run_further 0 ⟨above, below⟩, State.after] at reads
  obtain ⟨last, rest, rfl, lastAbove, lastBelow⟩ := exists_of_run_owed reads
  have least : 0x80 ≤ second.toNat ∧ (byte.toNat = 0xE0 → 0xA0 ≤ second.toNat) := by
    split at above <;> omega
  have greatest : second.toNat ≤ 0xBF ∧ (byte.toNat = 0xED → second.toNat ≤ 0x9F) := by
    split at below <;> omega
  refine ⟨Char.ofNat (((byte.toNat - 0xE0) * 64 + (second.toNat - 0x80)) * 64 +
    (last.toNat - 0x80)), rest, ?_⟩
  rw [String.utf8EncodeChar, toNat_val_ofNat (by omega), if_neg (by omega), if_neg (by omega),
    if_pos (by omega), ofNat_eq_of_eq_toNat (by omega : _ = byte.toNat),
    ofNat_eq_of_eq_toNat (by omega : _ = second.toNat),
    ofNat_eq_of_eq_toNat (by omega : _ = last.toNat)]
  rfl

theorem exists_of_run_four (four : 0xF0 ≤ byte.toNat ∧ byte.toNat ≤ 0xF4)
    (reads : run ⟨3, if byte.toNat = 0xF0 then 0x90 else 0x80,
      if byte.toNat = 0xF4 then 0x8F else 0xBF, byte.toNat - 0xF0⟩ bytes = text.map some) :
    ∃ character rest, byte :: bytes = String.utf8EncodeChar character ++ rest := by
  obtain ⟨second, bytes, rfl, above, below⟩ := exists_of_run_owed reads
  rw [run_further 1 ⟨above, below⟩, State.after] at reads
  obtain ⟨third, bytes, rfl, thirdAbove, thirdBelow⟩ := exists_of_run_owed reads
  rw [run_further 0 ⟨thirdAbove, thirdBelow⟩, State.after] at reads
  obtain ⟨last, rest, rfl, lastAbove, lastBelow⟩ := exists_of_run_owed reads
  have least : 0x80 ≤ second.toNat ∧ (byte.toNat = 0xF0 → 0x90 ≤ second.toNat) := by
    split at above <;> omega
  have greatest : second.toNat ≤ 0xBF ∧ (byte.toNat = 0xF4 → second.toNat ≤ 0x8F) := by
    split at below <;> omega
  refine ⟨Char.ofNat ((((byte.toNat - 0xF0) * 64 + (second.toNat - 0x80)) * 64 +
    (third.toNat - 0x80)) * 64 + (last.toNat - 0x80)), rest, ?_⟩
  rw [String.utf8EncodeChar, toNat_val_ofNat (by omega), if_neg (by omega), if_neg (by omega),
    if_neg (by omega), ofNat_eq_of_eq_toNat (by omega : _ = byte.toNat),
    ofNat_eq_of_eq_toNat (by omega : _ = second.toNat),
    ofNat_eq_of_eq_toNat (by omega : _ = third.toNat),
    ofNat_eq_of_eq_toNat (by omega : _ = last.toNat)]
  rfl

/-- Bytes that are read without a malformed part start with those of a character. -/
theorem exists_of_items (reads : items (byte :: bytes) = text.map some) :
    ∃ character rest, byte :: bytes = String.utf8EncodeChar character ++ rest := by
  rw [items, run_start_cons] at reads
  have bound := byte.toNat_lt
  rcases (by omega : byte.toNat ≤ 0x7F ∨
      (0x7F < byte.toNat ∧ byte.toNat < 0xC2 ∨ 0xF4 < byte.toNat) ∨
      (0xC2 ≤ byte.toNat ∧ byte.toNat ≤ 0xDF) ∨ (0xE0 ≤ byte.toNat ∧ byte.toNat ≤ 0xEF) ∨
      (0xF0 ≤ byte.toNat ∧ byte.toNat ≤ 0xF4)) with one | other | two | three | four
  · refine ⟨Char.ofNat byte.toNat, bytes, ?_⟩
    rw [String.utf8EncodeChar, toNat_val_ofNat (by omega), if_pos one, ofNat_eq_of_eq_toNat rfl]
    rfl
  · rw [begin_other other] at reads
    cases text with
    | nil => exact nomatch reads
    | cons character text => exact nomatch (List.cons.inj reads).1
  · rw [begin_two two] at reads
    exact exists_of_run_two two reads
  · rw [begin_three three] at reads
    exact exists_of_run_three three reads
  · rw [begin_four four] at reads
    exact exists_of_run_four four reads

end Bytes

/-! ## Texts -/

theorem encode_cons (character : Char) (text : List Char) :
    encode (character :: text) = String.utf8EncodeChar character ++ encode text :=
  rfl

theorem encode_append (first second : List Char) :
    encode (first ++ second) = encode first ++ encode second :=
  List.flatMap_append

/-- A text is read from its bytes, whatever stands behind them. -/
theorem items_encode_append (text : List Char) (rest : List UInt8) :
    items (encode text ++ rest) = text.map some ++ items rest := by
  induction text with
  | nil => rfl
  | cons character text ih =>
      rw [encode_cons, List.append_assoc, items_encodeChar_append, ih, List.map_cons,
        List.cons_append]

theorem items_encode (text : List Char) : items (encode text) = text.map some := by
  have reads := items_encode_append text []
  rwa [List.append_nil, show items [] = [] from rfl, List.append_nil] at reads

/-- Bytes that are read as a text are those of the text. -/
theorem eq_encode_of_items {bytes : List UInt8} {text : List Char}
    (reads : items bytes = text.map some) : bytes = encode text := by
  induction text generalizing bytes with
  | nil =>
      cases bytes with
      | nil => rfl
      | cons byte bytes =>
          obtain ⟨character, rest, split⟩ := exists_of_items reads
          rw [split, items_encodeChar_append] at reads
          exact nomatch reads
  | cons character text ih =>
      cases bytes with
      | nil => exact nomatch reads
      | cons byte bytes =>
          obtain ⟨first, rest, split⟩ := exists_of_items reads
          rw [split, items_encodeChar_append, List.map_cons] at reads
          obtain ⟨same, others⟩ := List.cons.inj reads
          rw [split, Option.some.inj same, ih others, encode_cons]

/-- Items without a malformed part are those of a text. -/
theorem mapM_id_eq_some_iff {items : List (Option Char)} {text : List Char} :
    items.mapM id = some text ↔ items = text.map some := by
  induction items generalizing text with
  | nil => cases text <;> simp
  | cons item items ih =>
      cases item with
      | none => cases text <;> simp
      | some character =>
          rw [List.mapM_cons, id_eq, Option.bind_eq_bind, Option.bind_some, Option.bind_eq_bind,
            Option.bind_eq_some_iff]
          constructor
          · rintro ⟨others, read, same⟩
            rw [ih.mp read, ← Option.some.inj same, List.map_cons]
          · intro split
            obtain ⟨first, others, rfl, same, rest⟩ := List.map_eq_cons_iff.mp split.symm
            exact ⟨others, ih.mpr rest.symm, by rw [Option.some.inj same]; rfl⟩

/-- **The strict reading accepts the bytes of a text**, and no others. -/
theorem decode?_eq_some_iff {bytes : List UInt8} {text : List Char} :
    decode? bytes = some text ↔ bytes = encode text := by
  rw [decode?, mapM_id_eq_some_iff]
  constructor
  · exact eq_encode_of_items
  · rintro rfl
    exact items_encode text

theorem decode?_encode (text : List Char) : decode? (encode text) = some text :=
  decode?_eq_some_iff.mpr rfl

theorem encode_ne_nil {text : List Char} (nonempty : text ≠ []) : encode text ≠ [] := by
  intro nothing
  have reads := decode?_encode text
  rw [nothing] at reads
  exact nonempty (Option.some.inj reads).symm

end MainsCharts.Text.Utf8
