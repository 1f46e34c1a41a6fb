import WorkflowLint.Proofs.Json.Decode
import WorkflowLint.Proofs.Numerals

/-!
# Round trip — what is written can be read

Decoding the text of a value gives the value back (`Json.decode_text`). The proof follows the
writer: characters, strings, numerals, and then values, items and members together. Each part is
read off the front of a longer text, and what follows it is left as it is. Only a numeral asks
something of what follows: it must not go on with more digits (`Closes`).
-/

namespace WorkflowLint
namespace Json

/-! ## The data of a value -/

mutual

/-- What a value stands for. -/
def Value.datum : Value → Datum
  | .string s => .string s
  | .number n => .count n
  | .bool b => .bool b
  | .array items => .array (itemData items)
  | .object members => .object (memberData members)

def itemData : List Value → List Datum
  | [] => []
  | v :: items => v.datum :: itemData items

def memberData : List (String × Value) → List (String × Datum)
  | [] => []
  | (key, v) :: members => (key, v.datum) :: memberData members

end

theorem itemData_eq_map (items : List Value) : itemData items = items.map Value.datum := by
  induction items with
  | nil =>
      rfl
  | cons v items ih =>
      rw [itemData, ih, List.map_cons]

/-! ## Blanks -/

theorem skipSpace_cons {c : Char} (h : isSpace c = false) (rest : List Char) :
    skipSpace (c :: rest) = c :: rest := by
  simp [skipSpace, h]

theorem skipSpace_newline (level : Nat) (rest : List Char) :
    skipSpace (newline level ++ rest) = skipSpace rest := by
  apply List.dropWhile_append_of_pos
  intro c hc
  rcases List.mem_cons.1 hc with rfl | hc
  · rfl
  · rw [List.eq_of_mem_replicate hc]
    rfl

/-! ## Strings -/

theorem hexValue?_hexDigit {d : Nat} (h : d < 16) : hexValue? (hexDigit d) = some d := by
  have hall : ∀ d, d < 16 → hexValue? (hexDigit d) = some d := by
    decide
  exact hall d h

/-- A number below 256 is spelled by two zeros and two digits of sixteen. -/
theorem readUnit_hexDigit {n : Nat} (h : n < 256) (rest : List Char) :
    readUnit ('0' :: '0' :: hexDigit (n / 16) :: hexDigit (n % 16) :: rest) = some (n, rest) := by
  have hzero : hexValue? '0' = some 0 := rfl
  have hhigh : hexValue? (hexDigit (n / 16)) = some (n / 16) := hexValue?_hexDigit (by omega)
  have hlow : hexValue? (hexDigit (n % 16)) = some (n % 16) := hexValue?_hexDigit (by omega)
  have hvalue : ((0 * 16 + 0) * 16 + n / 16) * 16 + n % 16 = n := by
    omega
  simp only [readUnit, hzero, hhigh, hlow, Option.bind_eq_bind, Option.bind_some, Option.pure_def,
    hvalue]

/-- A character is read from the way in which it stands in a string. -/
theorem readChar_escape (c : Char) (rest : List Char) :
    readChar (escape c ++ rest) = some (c, rest) := by
  unfold escape
  -- each character with a letter or sign of its own is a case, and all others are the last one
  split <;> try rfl
  next =>
    split
    · next hcontrol =>
      have hunit := readUnit_hexDigit (n := c.toNat) (by omega) rest
      have hhigh : isHigh c.toNat = false := by
        simp [isHigh]
        omega
      have hlow : isLow c.toNat = false := by
        simp [isLow]
        omega
      simp [readChar, readEscape, hunit, hhigh, hlow, Char.ofNat_toNat]
    · next hplain =>
      simp [readChar, hplain]

theorem escape_ne_nil (c : Char) : escape c ≠ [] := by
  intro h
  have hread := readChar_escape c []
  rw [h] at hread
  cases hread

/-- No character stands in a string as a quote alone. -/
theorem escape_append_ne (c : Char) (tail rest : List Char) : escape c ++ tail ≠ '"' :: rest := by
  intro h
  have hread : readChar ('"' :: rest) = some ('"', rest) := rfl
  rw [← h, readChar_escape, Option.some.injEq, Prod.mk.injEq] at hread
  rw [hread.1] at h
  cases (List.cons.inj h).1

/-- A string is read up to its closing quote. -/
theorem readString_escape (cs rest : List Char) {n : Nat} (hn : (cs.flatMap escape).length < n) :
    readString n (cs.flatMap escape ++ '"' :: rest) = some (cs, rest) := by
  induction cs generalizing n with
  | nil =>
      cases n with
      | zero =>
          cases hn
      | succ n =>
          rfl
  | cons c cs ih =>
      cases n with
      | zero =>
          cases hn
      | succ n =>
          have hrest : (cs.flatMap escape).length < n := by
            have hpos : 0 < (escape c).length := List.length_pos_iff.2 (escape_ne_nil c)
            rw [List.flatMap_cons, List.length_append] at hn
            omega
          rw [List.flatMap_cons, List.append_assoc, readString, readChar_escape]
          · simp only [Option.bind_eq_bind, Option.bind_some, ih hrest, Option.pure_def]
          · exact escape_append_ne c _

/-! ## Numerals -/

/-- A text that ends an item or a member: it is at its end, or goes on with a comma or a line. -/
def Closes (rest : List Char) : Prop :=
  ∀ c ∈ rest.head?, c = ',' ∨ c = '\n'

theorem closes_newline (level : Nat) (rest : List Char) : Closes (newline level ++ rest) := by
  intro c hc
  exact .inr (Option.some.inj hc).symm

theorem closes_comma (rest : List Char) : Closes (',' :: rest) := by
  intro c hc
  exact .inl (Option.some.inj hc).symm

theorem Closes.takeWhile_isDigit {rest : List Char} (h : Closes rest) :
    rest.takeWhile Char.isDigit = [] ∧ rest.dropWhile Char.isDigit = rest := by
  cases rest with
  | nil =>
      exact ⟨rfl, rfl⟩
  | cons c rest =>
      have hc : c.isDigit = false := by
        rcases h c rfl with rfl | rfl <;> rfl
      simp [hc]

theorem Closes.readFraction_eq {rest : List Char} (h : Closes rest) :
    readFraction rest = some ([], rest) := by
  cases rest with
  | nil =>
      rfl
  | cons c rest =>
      rcases h c rfl with rfl | rfl <;> rfl

theorem Closes.readExponent_eq {rest : List Char} (h : Closes rest) :
    readExponent rest = some (0, rest) := by
  cases rest with
  | nil =>
      rfl
  | cons c rest =>
      rcases h c rfl with rfl | rfl <;> rfl

theorem ne_of_isDigit {c d : Char} (h : c.isDigit = true) (hd : d.isDigit = false) : c ≠ d := by
  rintro rfl
  rw [h] at hd
  cases hd

theorem isSpace_of_isDigit {c : Char} (h : c.isDigit = true) : isSpace c = false := by
  simp [isSpace, ne_of_isDigit h]

theorem readDigits_toString (n : Nat) {rest : List Char} (h : Closes rest) :
    readDigits ((toString n).toList ++ rest) = some ((toString n).toList, rest) := by
  have hdigits : ∀ c ∈ (toString n).toList, c.isDigit = true := fun c => isDigit_of_mem_toString
  have hne := toList_toString_ne_nil n
  rw [readDigits, List.takeWhile_append_of_pos hdigits, List.dropWhile_append_of_pos hdigits,
    h.takeWhile_isDigit.1, h.takeWhile_isDigit.2, List.append_nil]
  split
  · next hnil =>
    exact absurd hnil hne
  · rfl

theorem readWhole_toString (n : Nat) {rest : List Char} (h : Closes rest) :
    readWhole ((toString n).toList ++ rest) = some ((toString n).toList, rest) := by
  cases n with
  | zero =>
      rfl
  | succ n =>
      have hdigits := readDigits_toString (n + 1) h
      have hhead := head?_toString_ne_zero (Nat.succ_pos n)
      rcases exists_toString_eq_cons (n + 1) with ⟨c, digits, hnum, _⟩
      rw [hnum, List.cons_append] at hdigits ⊢
      rw [hnum, List.head?_cons, ne_eq, Option.some.injEq] at hhead
      rw [readWhole, hdigits]
      rintro tail ⟨⟩
      exact hhead rfl

theorem readNumber_toString (n : Nat) {rest : List Char} (h : Closes rest) :
    readNumber ((toString n).toList ++ rest) = some (⟨n, 0⟩, rest) := by
  have hvalue : Nat.ofDigitChars 10 (toString n).toList 0 = n := by
    rw [Nat.toString_eq_repr, Nat.toList_repr]
    exact Nat.ofDigitChars_toDigits (by decide) (by decide)
  have hmagnitude : readMagnitude false ((toString n).toList ++ rest) = some (⟨n, 0⟩, rest) := by
    simp only [readMagnitude, readWhole_toString n h, h.readFraction_eq, h.readExponent_eq,
      Option.bind_eq_bind, Option.bind_some, List.append_nil, signed, hvalue]
    rfl
  rcases exists_toString_eq_cons n with ⟨c, digits, hnum, hc⟩
  rw [hnum, List.cons_append] at hmagnitude ⊢
  rw [readNumber, hmagnitude]
  -- the first character is no sign
  rintro tail ⟨⟩
  cases hc

/-! ## Values -/

/-- A written value begins with a sign that is no blank and ends no array. -/
theorem exists_write_eq_cons (v : Value) (level : Nat) :
    ∃ c tail, v.write level = c :: tail ∧ isSpace c = false ∧ c ≠ ']' := by
  cases v with
  | string s =>
      exact ⟨_, _, by rw [Value.write, quote, List.cons_append], by decide, by decide⟩
  | number n =>
      rcases exists_toString_eq_cons n with ⟨c, digits, hnum, hc⟩
      exact ⟨c, digits, by rw [Value.write, hnum], isSpace_of_isDigit hc, ne_of_isDigit hc rfl⟩
  | bool b =>
      cases b with
      | true =>
          exact ⟨_, _, rfl, by decide, by decide⟩
      | false =>
          exact ⟨_, _, rfl, by decide, by decide⟩
  | array items =>
      cases items with
      | nil =>
          exact ⟨_, _, by rw [Value.write], by decide, by decide⟩
      | cons v items =>
          exact ⟨_, _, by rw [Value.write]; rfl, by decide, by decide⟩
  | object members =>
      cases members with
      | nil =>
          exact ⟨_, _, by rw [Value.write], by decide, by decide⟩
      | cons m members =>
          rcases m with ⟨key, v⟩
          exact ⟨_, _, by rw [Value.write]; rfl, by decide, by decide⟩

/-- Blanks in front of a value do not matter. -/
theorem readValue_skipSpace (n : Nat) {text text' : List Char}
    (h : skipSpace text = skipSpace text') : readValue n text = readValue n text' := by
  cases n with
  | zero =>
      rw [readValue, readValue]
  | succ n =>
      rw [readValue, readValue, h]

/-- What begins with a digit can only be a number. -/
theorem readValue_of_isDigit {c : Char} (h : c.isDigit = true) (n : Nat) (rest : List Char) :
    readValue (n + 1) (c :: rest) =
      (readNumber (c :: rest)).map fun r => (.number r.1, r.2) := by
  rw [readValue, skipSpace_cons (isSpace_of_isDigit h)]
  split
  all_goals first
    | rfl
    | next hother => exact absurd (List.cons.inj hother).1 (ne_of_isDigit h rfl)

theorem readMember_skipSpace (n : Nat) {text text' : List Char}
    (h : skipSpace text = skipSpace text') : readMember n text = readMember n text' := by
  cases n with
  | zero =>
      rw [readMember, readMember]
  | succ n =>
      rw [readMember, readMember, h]

/-! ## What is read where it is written -/

/-- A value is read where it is written, within as many steps as it has characters. -/
def Reads (v : Value) : Prop :=
  ∀ level n rest, (v.write level).length ≤ n → Closes rest →
    readValue n (v.write level ++ rest) = some (v.datum, rest)

/-- So are items after the first one. They end with their bracket, whatever follows it. -/
def ReadsItems (items : List Value) : Prop :=
  ∀ level n rest, (writeItems level items).length ≤ n →
    readItems n (writeItems level items ++ rest) = some (itemData items, rest)

/-- So are members after the first one. -/
def ReadsMembers (members : List (String × Value)) : Prop :=
  ∀ level n rest, (writeMembers level members).length ≤ n →
    readMembers n (writeMembers level members ++ rest) = some (memberData members, rest)

theorem closes_writeItems (level : Nat) (items : List Value) (rest : List Char) :
    Closes (writeItems level items ++ rest) := by
  cases items with
  | nil =>
      rw [writeItems, List.append_assoc]
      exact closes_newline level _
  | cons v items =>
      rw [writeItems]
      exact closes_comma _

theorem closes_writeMembers (level : Nat) (members : List (String × Value)) (rest : List Char) :
    Closes (writeMembers level members ++ rest) := by
  cases members with
  | nil =>
      rw [writeMembers, List.append_assoc]
      exact closes_newline level _
  | cons m members =>
      rw [writeMembers]
      exact closes_comma _

/-! ### Values without parts -/

theorem reads_string (s : String) : Reads (.string s) := by
  intro level n rest hn hrest
  simp only [Value.write, quote, List.length_append, List.length_cons, List.length_nil] at hn
  cases n with
  | zero =>
      omega
  | succ n =>
      have hstring := readString_escape s.toList rest (show _ < n by omega)
      rw [Value.write, quote, List.cons_append, List.cons_append, List.append_assoc, readValue,
        skipSpace_cons rfl]
      simp [hstring, Value.datum]

theorem reads_number (m : Nat) : Reads (.number m) := by
  intro level n rest hn hrest
  have hnumber := readNumber_toString m hrest
  rcases exists_toString_eq_cons m with ⟨c, digits, hnum, hc⟩
  rw [Value.write, hnum] at hn ⊢
  rw [hnum, List.cons_append] at hnumber
  cases n with
  | zero =>
      cases hn
  | succ n =>
      rw [List.cons_append, readValue_of_isDigit hc, hnumber]
      rfl

theorem reads_bool (b : Bool) : Reads (.bool b) := by
  intro level n rest hn hrest
  cases n with
  | zero =>
      cases b <;> cases hn
  | succ n =>
      cases b <;> rfl

theorem reads_array_nil : Reads (.array []) := by
  intro level n rest hn hrest
  cases n with
  | zero =>
      cases hn
  | succ n =>
      rfl

theorem reads_object_nil : Reads (.object []) := by
  intro level n rest hn hrest
  cases n with
  | zero =>
      cases hn
  | succ n =>
      rfl

/-! ### Items -/

theorem Reads.array {v : Value} {items : List Value} (h : Reads v) (hitems : ReadsItems items) :
    Reads (.array (v :: items)) := by
  intro level n rest hn hrest
  simp only [Value.write, List.length_append, List.length_cons] at hn
  cases n with
  | zero =>
      omega
  | succ n =>
      have hvalue := h (level + 1) n (writeItems level items ++ rest) (by omega)
        (closes_writeItems level items rest)
      have hmore := hitems level n rest (by omega)
      -- what begins the first item does not end the array
      rcases exists_write_eq_cons v (level + 1) with ⟨c, tail, hwrite, hspace, hc⟩
      rw [Value.write]
      simp only [List.cons_append, List.append_assoc]
      rw [readValue, skipSpace_cons rfl]
      simp only [skipSpace_newline]
      rw [hwrite, List.cons_append] at hvalue ⊢
      simp only [skipSpace_cons hspace]
      split
      · next h =>
        exact absurd (List.cons.inj h).1 hc
      · simp only [hvalue, hmore, Option.bind_eq_bind, Option.bind_some, Option.pure_def,
          Value.datum, itemData]

theorem readsItems_nil : ReadsItems [] := by
  intro level n rest hn
  cases n with
  | zero =>
      cases hn
  | succ n =>
      rw [writeItems, List.append_assoc, readItems, skipSpace_newline]
      rfl

theorem ReadsItems.cons {v : Value} {items : List Value} (h : Reads v) (hitems : ReadsItems items) :
    ReadsItems (v :: items) := by
  intro level n rest hn
  simp only [writeItems, List.length_append, List.length_cons] at hn
  cases n with
  | zero =>
      omega
  | succ n =>
      have hvalue := h (level + 1) n (writeItems level items ++ rest) (by omega)
        (closes_writeItems level items rest)
      have hmore := hitems level n rest (by omega)
      rw [← readValue_skipSpace n (skipSpace_newline (level + 1) _)] at hvalue
      rw [writeItems]
      simp only [List.cons_append, List.append_assoc]
      rw [readItems, skipSpace_cons rfl]
      simp only [hvalue, hmore, Option.bind_eq_bind, Option.bind_some, Option.pure_def, itemData]

/-! ### Members -/

theorem Reads.readMember_eq {v : Value} (h : Reads v) (key : String) (level : Nat) {n : Nat}
    {rest : List Char} (hn : (quote key).length + 2 + (v.write level).length ≤ n)
    (hrest : Closes rest) :
    readMember n (quote key ++ ':' :: ' ' :: (v.write level ++ rest)) =
      some ((key, v.datum), rest) := by
  cases n with
  | zero =>
      omega
  | succ n =>
      simp only [quote, List.length_append, List.length_cons, List.length_nil] at hn
      have hkey := readString_escape key.toList (':' :: ' ' :: (v.write level ++ rest))
        (show _ < n by omega)
      have hblank : skipSpace (' ' :: (v.write level ++ rest)) =
          skipSpace (v.write level ++ rest) := rfl
      have hvalue := h level n rest (by omega) hrest
      rw [← readValue_skipSpace n hblank] at hvalue
      simp only [quote, List.cons_append, List.nil_append, List.append_assoc]
      rw [readMember, skipSpace_cons rfl]
      simp only [hkey, Option.bind_eq_bind, Option.bind_some]
      rw [skipSpace_cons rfl]
      simp only [hvalue, Option.bind_some, Option.pure_def, String.ofList_toList]

theorem Reads.object {v : Value} {members : List (String × Value)} (h : Reads v) (key : String)
    (hmembers : ReadsMembers members) : Reads (.object ((key, v) :: members)) := by
  intro level n rest hn hrest
  simp only [Value.write, List.length_append, List.length_cons, List.length_nil] at hn
  cases n with
  | zero =>
      omega
  | succ n =>
      have hmember := h.readMember_eq key (level + 1) (show _ ≤ n by omega)
        (closes_writeMembers level members rest)
      have hmore := hmembers level n rest (by omega)
      rw [Value.write]
      simp only [quote, List.cons_append, List.nil_append, List.append_assoc] at hmember ⊢
      rw [readValue, skipSpace_cons rfl]
      simp only [skipSpace_newline]
      rw [skipSpace_cons rfl]
      split
      · next h =>
        -- a key begins with a quote
        cases (List.cons.inj h).1
      · simp only [hmember, hmore, Option.bind_eq_bind, Option.bind_some, Option.pure_def,
          Value.datum, memberData]

theorem readsMembers_nil : ReadsMembers [] := by
  intro level n rest hn
  cases n with
  | zero =>
      cases hn
  | succ n =>
      rw [writeMembers, List.append_assoc, readMembers, skipSpace_newline]
      rfl

theorem ReadsMembers.cons {v : Value} {members : List (String × Value)} (h : Reads v)
    (key : String) (hmembers : ReadsMembers members) : ReadsMembers ((key, v) :: members) := by
  intro level n rest hn
  simp only [writeMembers, List.length_append, List.length_cons, List.length_nil] at hn
  cases n with
  | zero =>
      omega
  | succ n =>
      have hmember := h.readMember_eq key (level + 1) (show _ ≤ n by omega)
        (closes_writeMembers level members rest)
      have hmore := hmembers level n rest (by omega)
      rw [← readMember_skipSpace n (skipSpace_newline (level + 1) _)] at hmember
      rw [writeMembers]
      simp only [List.cons_append, List.nil_append, List.append_assoc]
      rw [readMembers, skipSpace_cons rfl]
      simp only [hmember, hmore, Option.bind_eq_bind, Option.bind_some, Option.pure_def, memberData]

/-! ### All values -/

mutual

theorem reads (v : Value) : Reads v := by
  cases v with
  | string s =>
      exact reads_string s
  | number n =>
      exact reads_number n
  | bool b =>
      exact reads_bool b
  | array items =>
      cases items with
      | nil =>
          exact reads_array_nil
      | cons v items =>
          exact (reads v).array (readsItems items)
  | object members =>
      cases members with
      | nil =>
          exact reads_object_nil
      | cons m members =>
          rcases m with ⟨key, v⟩
          exact (reads v).object key (readsMembers members)

theorem readsItems (items : List Value) : ReadsItems items := by
  cases items with
  | nil =>
      exact readsItems_nil
  | cons v items =>
      exact .cons (reads v) (readsItems items)

theorem readsMembers (members : List (String × Value)) : ReadsMembers members := by
  cases members with
  | nil =>
      exact readsMembers_nil
  | cons m members =>
      rcases m with ⟨key, v⟩
      exact .cons (reads v) key (readsMembers members)

end

/-! ## Texts -/

theorem decode_text (v : Value) : decode v.text = some v.datum := by
  have hread := reads v 0 (v.write 0).length [] (Nat.le_refl _) (by simp [Closes])
  rw [List.append_nil] at hread
  rw [decode, Value.text, String.toList_ofList, hread]
  rfl

end Json
end WorkflowLint
