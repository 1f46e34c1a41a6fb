import WorkflowLint.Yaml.Compose

/-!
# Reading — what is known of a reading that succeeds

Lemmas that open a reading that has succeeded: its steps have, and what it comes to was read from
the root of its document. Equality of values can be decided, so what a given text is read as can
be found out by running.
-/

namespace WorkflowLint

/-! ## Results -/

section

variable {ε α β : Type} {x : Except ε α} {a : α} {b : β}

theorem of_bind_eq_ok {f : α → Except ε β} (h : x >>= f = .ok b) :
    ∃ a, x = .ok a ∧ f a = .ok b := by
  cases x with
  | error e =>
      cases h
  | ok a =>
      exact ⟨a, rfl, h⟩

theorem of_bind_eq_error {e : ε} {f : α → Except ε β} (h : x >>= f = .error e) :
    x = .error e ∨ ∃ a, x = .ok a ∧ f a = .error e := by
  cases x with
  | error e' =>
      cases h
      exact .inl rfl
  | ok a =>
      exact .inr ⟨a, rfl, h⟩

theorem of_map_eq_error {e : ε} {f : α → β} (h : f <$> x = .error e) : x = .error e := by
  cases x with
  | error e' =>
      cases h
      rfl
  | ok a =>
      cases h

theorem of_map_eq_ok {f : α → β} (h : f <$> x = .ok b) : ∃ a, x = .ok a ∧ f a = b := by
  cases x with
  | error e =>
      cases h
  | ok a =>
      exact ⟨a, rfl, Except.ok.inj h⟩

theorem eq_ok_of_toOption (h : x.toOption = some a) : x = .ok a := by
  cases x with
  | error e =>
      cases h
  | ok a' =>
      cases h
      rfl

end

namespace Yaml

/-! ## Steps of a reading -/

namespace Reading

variable {α β : Type} {x : Reading α} {f : α → Reading β} {jumps jumps' jumps'' : Nat}

theorem bind_eq_of_eq_ok {a : α} (h : x jumps = .ok (a, jumps')) (f : α → Reading β) :
    (x >>= f) jumps = f a jumps' := by
  show (x jumps >>= _) = _
  rw [h]
  rfl

theorem bind_eq_ok_iff {b : β} :
    (x >>= f) jumps = .ok (b, jumps'') ↔
      ∃ a jumps', x jumps = .ok (a, jumps') ∧ f a jumps' = .ok (b, jumps'') := by
  constructor
  · intro h
    rcases of_bind_eq_ok (x := x jumps) h with ⟨⟨a, jumps'⟩, hx, hf⟩
    exact ⟨a, jumps', hx, hf⟩
  · rintro ⟨a, jumps', hx, hf⟩
    rw [bind_eq_of_eq_ok hx, hf]

theorem pure_eq_ok_iff {a b : α} :
    (pure a : Reading α) jumps = .ok (b, jumps') ↔ jumps' = jumps ∧ b = a := by
  show Except.ok (a, jumps) = Except.ok (b, jumps') ↔ _
  rw [Except.ok.injEq, Prod.mk.injEq, eq_comm, and_comm, eq_comm (a := jumps)]

theorem place_eq_ok_iff {mark : Mark} {path : Path} {r : Except ContentError α} {a : α} :
    place mark path r jumps = .ok (a, jumps') ↔ jumps' = jumps ∧ r = .ok a := by
  cases r with
  | error e =>
      constructor
      · nofun
      · nofun
  | ok b =>
      rw [Except.ok.injEq, eq_comm (a := b)]
      exact pure_eq_ok_iff

end Reading

/-! ## Documents -/

/-- What a document comes to is read from its root. -/
theorem Document.root_of_decode_eq_ok {α : Type} {d : Document} {absent a : α}
    {read : Node → Reading α} (h : d.decode absent read = .ok a) :
    d.root = none ∧ a = absent ∨ ∃ n jumps, d.root = some n ∧ read n 0 = .ok (a, jumps) := by
  unfold decode at h
  cases hroot : d.root with
  | none =>
      simp only [hroot] at h
      rcases of_bind_eq_ok h with ⟨_, hread, h⟩
      cases hread
      split at h
      · cases h
      · split at h
        · cases h
        · exact .inl ⟨rfl, (Except.ok.inj h).symm⟩
  | some n =>
      simp only [hroot] at h
      rcases of_bind_eq_ok h with ⟨_, hread, h⟩
      rcases of_map_eq_ok hread with ⟨⟨a', jumps⟩, hnode, hsame⟩
      cases hsame
      split at h
      · cases h
      · split at h
        · cases h
        · cases h
          exact .inr ⟨n, jumps, rfl, hnode⟩

/-- A document that comes to something with one reader breaks off nowhere, so what it comes to with
another one is up to that reader. -/
theorem Document.decode_eq_of_decode_eq_ok {α β : Type} {d : Document} {absent a : α}
    {read : Node → Reading α} {n : Node} (h : d.decode absent read = .ok a)
    (hroot : d.root = some n) (absent' : β) (read' : Node → Reading β) :
    d.decode absent' read' = Prod.fst <$> read' n 0 := by
  unfold decode at h ⊢
  simp only [hroot] at h ⊢
  rcases of_bind_eq_ok h with ⟨_, _, hend⟩
  cases hfailure : d.failure with
  | some e =>
      simp [hfailure] at hend
  | none =>
      cases hmore : d.more with
      | true =>
          simp [hfailure, hmore] at hend
      | false =>
          show (Prod.fst <$> read' n 0 >>= Except.ok) = _
          cases read' n 0 <;> rfl

/-! ## Nodes that are read -/

namespace Value

variable {entries : List (Value × Value)}

theorem ofScalar_ne_mapping {tag : Option Octets} {style : ScalarStyle} {text : String} {v : Value}
    (h : ofScalar tag style text = .ok v) : v ≠ .mapping entries := by
  have hmeaning : ∀ {m v}, ofMeaning text m = .ok v → v ≠ .mapping entries := by
    intro m v hv
    cases m <;> simp only [ofMeaning] at hv <;> grind
  unfold ofScalar at h
  split at h
  · cases hm : ofMeaning text (Scalar.untagged style text) with
    | error e => simp [hm, Except.map] at h
    | ok v' =>
        simp only [hm, Except.map, Except.ok.injEq] at h
        rw [← h]
        simp
  · rcases of_bind_eq_ok h with ⟨m, _, hm⟩
    exact hmeaning hm

theorem underTag_sequence_ne_mapping (tag : Option Octets) (items : List Value) :
    underTag tag (.sequence items) ≠ .mapping entries := by
  unfold underTag
  split <;> simp

theorem eq_of_underTag_mapping {tag : Option Octets} {values : List (Value × Value)}
    (h : underTag tag (.mapping values) = .mapping entries) : values = entries := by
  unfold underTag at h
  split at h
  · cases h
  · exact mapping.inj h

/-- How the value of a node is read, by what the node holds once aliases are followed. -/
inductive OfNode (d : Document) (n : Node) (path : Path) (jumps jumps' : Nat) (v : Value) : Prop
  | scalar {number : Nat} {mark : Mark} {tag : Option Octets} {style : ScalarStyle} {text : String}
      {path' : Path}
      (follow : d.follow n path jumps =
        .ok ((.content number mark tag (.scalar style text), path'), jumps'))
      (value : ofScalar tag style text = .ok v)
  | sequence {number depth start : Nat} {mark : Mark} {tag : Option Octets} {items : List Node}
      {path' : Path} {values : List Value}
      (follow : d.follow n path jumps =
        .ok ((.content number mark tag (.sequence items), path'), start))
      (read : ofItems (ofNode d depth) path' 0 items start = .ok (values, jumps'))
      (value : v = underTag tag (.sequence values))
  | mapping {number depth start : Nat} {mark : Mark} {tag : Option Octets}
      {nodes : List (Node × Node)} {path' : Path} {values : List (Value × Value)}
      (follow : d.follow n path jumps =
        .ok ((.content number mark tag (.mapping nodes), path'), start))
      (read : ofEntries (ofNode d depth) mark path' [] nodes start = .ok (values, jumps'))
      (value : v = underTag tag (.mapping values))

theorem of_ofNode_eq_ok {d : Document} {depth jumps jumps' : Nat} {n : Node} {path : Path}
    {v : Value} (h : ofNode d depth n path jumps = .ok (v, jumps')) :
    OfNode d n path jumps jumps' v := by
  unfold ofNode at h
  rcases of_bind_eq_ok (x := d.follow n path jumps) h with ⟨⟨⟨n', path'⟩, start⟩, hfollow, h⟩
  cases n' with
  | cut =>
      cases h
  | «alias» mark target =>
      cases h
  | content number mark tag body =>
      cases body with
      | scalar style text =>
          cases hscalar : ofScalar tag style text with
          | error e =>
              simp [hscalar, Reading.place, Reading.fail] at h
          | ok v' =>
              simp only [hscalar] at h
              cases h
              exact .scalar hfollow hscalar
      | sequence items =>
          cases depth with
          | zero =>
              cases h
          | succ depth =>
              rcases of_bind_eq_ok (x := ofItems (ofNode d depth) path' 0 items start) h with
                ⟨⟨values, _⟩, hread, h⟩
              cases h
              exact .sequence hfollow hread rfl
      | mapping nodes =>
          cases depth with
          | zero =>
              cases h
          | succ depth =>
              rcases of_bind_eq_ok
                (x := ofEntries (ofNode d depth) mark path' [] nodes start) h with
                ⟨⟨values, _⟩, hread, h⟩
              cases h
              exact .mapping hfollow hread rfl

/-- Only a node that is a mapping, once aliases are followed, has a mapping as its value, and that
has the entries that are read. -/
theorem of_ofNode_eq_mapping {d : Document} {depth jumps jumps' : Nat} {n : Node} {path : Path}
    (h : ofNode d depth n path jumps = .ok (.mapping entries, jumps')) :
    ∃ number mark tag nodes path' jumps'' depth',
      d.follow n path jumps =
        .ok ((.content number mark tag (.mapping nodes), path'), jumps'') ∧
      ofEntries (ofNode d depth') mark path' [] nodes jumps'' = .ok (entries, jumps') := by
  cases of_ofNode_eq_ok h with
  | scalar follow value =>
      exact absurd rfl (ofScalar_ne_mapping value)
  | sequence follow read value =>
      exact absurd value.symm (underTag_sequence_ne_mapping _ _)
  | mapping follow read value =>
      cases eq_of_underTag_mapping value.symm
      exact ⟨_, _, _, _, _, _, _, follow, read⟩

end Value

/-! ## Equality of values -/

namespace Value

mutual

/-- Two values are equal, the order of entries and all tags included. -/
def beq : Value → Value → Bool
  | .null, .null => true
  | .bool a, .bool b => a == b
  | .number a, .number b => a == b
  | .string a, .string b => a == b
  | .sequence as, .sequence bs => beqItems as bs
  | .mapping as, .mapping bs => beqEntries as bs
  | .tagged s a, .tagged t b => s == t && beq a b
  | _, _ => false

def beqItems : List Value → List Value → Bool
  | [], [] => true
  | a :: as, b :: bs => beq a b && beqItems as bs
  | _, _ => false

def beqEntries : List (Value × Value) → List (Value × Value) → Bool
  | [], [] => true
  | (j, a) :: as, (k, b) :: bs => beq j k && beq a b && beqEntries as bs
  | _, _ => false

end

mutual

theorem beq_iff (v w : Value) : beq v w = true ↔ v = w := by
  cases v with
  | sequence as =>
      cases w with
      | sequence bs => rw [beq, beqItems_iff as bs, sequence.injEq]
      | _ => simp [beq]
  | mapping as =>
      cases w with
      | mapping bs => rw [beq, beqEntries_iff as bs, mapping.injEq]
      | _ => simp [beq]
  | tagged s a =>
      cases w with
      | tagged t b => rw [beq, Bool.and_eq_true, beq_iff_eq, beq_iff a b, tagged.injEq]
      | _ => simp [beq]
  | _ => cases w <;> simp [beq]

theorem beqItems_iff (as bs : List Value) : beqItems as bs = true ↔ as = bs := by
  cases as with
  | nil => cases bs <;> simp [beqItems]
  | cons a as =>
      cases bs with
      | nil => simp [beqItems]
      | cons b bs =>
          rw [beqItems, Bool.and_eq_true, beq_iff a b, beqItems_iff as bs, List.cons.injEq]

theorem beqEntries_iff (as bs : List (Value × Value)) : beqEntries as bs = true ↔ as = bs := by
  cases as with
  | nil => cases bs <;> simp [beqEntries]
  | cons e as =>
      rcases e with ⟨j, a⟩
      cases bs with
      | nil => simp [beqEntries]
      | cons e bs =>
          rcases e with ⟨k, b⟩
          rw [beqEntries, Bool.and_eq_true, Bool.and_eq_true, beq_iff j k, beq_iff a b,
            beqEntries_iff as bs, List.cons.injEq, Prod.mk.injEq]

end

instance : DecidableEq Value := fun v w =>
  decidable_of_iff _ (beq_iff v w)

end Value

end Yaml
end WorkflowLint
