import WorkflowLint.Writing

/-!
# Writers — procedures that write to a writer with little room

A writer has room for a number of octets, and takes them in parts of its own choice; then it fails
for good (`Writer.HasRoom`). A procedure is told by the octets that it writes and the result that
it comes to (`Writes`): where there is room for them all they are taken and it comes to its result,
and where there is not, just the first of them are, and it fails for the reason of the writer.
Procedures of this kind can be put one after another, and what they write is put together in the
same order. The loop that writes all of some octets is one of them (`Writing.writes_all`).
-/

namespace WorkflowLint

/-! ## Writers -/

namespace Room

/-- There is room for so many octets. -/
def Fits (n : Nat) (room : Room) : Prop :=
  ∀ limit ∈ room, n ≤ limit

/-- The room that is left behind so many octets. -/
def after (n : Nat) (room : Room) : Room :=
  room.map (· - n)

theorem fits_none (n : Nat) : Fits n none := by
  rintro _ ⟨⟩

theorem fits_some_iff {n limit : Nat} : Fits n (some limit) ↔ n ≤ limit := by
  constructor
  · intro h
    exact h limit rfl
  · rintro h _ ⟨⟩
    exact h

theorem Fits.of_le {m n : Nat} {room : Room} (h : Fits n room) (hle : m ≤ n) : Fits m room :=
  fun limit hlimit => Nat.le_trans hle (h limit hlimit)

theorem Fits.after {m n : Nat} {room : Room} (h : Fits (m + n) room) :
    Fits n (Room.after m room) := by
  intro limit hlimit
  rcases Option.map_eq_some_iff.1 hlimit with ⟨total, htotal, rfl⟩
  exact Nat.le_sub_of_add_le' (h total htotal)

theorem after_zero (room : Room) : after 0 room = room := by
  cases room <;> rfl

theorem after_after (m n : Nat) (room : Room) :
    after n (after m room) = after (m + n) room := by
  cases room with
  | none => rfl
  | some limit => exact congrArg some (Nat.sub_sub limit m n)

end Room

/-- A relation between writers and the room that they have. While there is room, the writer takes
some of what it is asked to take, and then has less room; without room it fails for a reason. -/
structure Writer.Keeps {σ : Type} (w : Writer σ) (reason : String) (R : Room → σ → Prop) :
    Prop where
  full : ∀ s, R (some 0) s → ∀ octets ≠ [], (w octets s).1 = .error reason
  takes : ∀ room s, R room s → room ≠ some 0 → ∀ octets ≠ [],
    ∃ n s', w octets s = (.ok n, s') ∧ 0 < n ∧ n ≤ octets.length ∧ Room.Fits n room ∧
      R (Room.after n room) s'

/-- A writer takes so many octets in total, in whatever parts, and then fails for a reason. -/
def Writer.HasRoom {σ : Type} (w : Writer σ) (reason : String) (room : Room) (s : σ) : Prop :=
  ∃ R, w.Keeps reason R ∧ R room s

variable {σ ε α β : Type} {w : Writer σ} {reason : String} {room : Room} {s : σ}
  {octets more : List UInt8}

namespace Writer.HasRoom

theorem full (h : w.HasRoom reason (some 0) s) (hoctets : octets ≠ []) :
    ∃ s', w octets s = (.error reason, s') := by
  rcases h with ⟨R, hkeeps, hroom⟩
  exact ⟨(w octets s).2, Prod.ext (hkeeps.full s hroom octets hoctets) rfl⟩

theorem takes (h : w.HasRoom reason room s) (hroom : room ≠ some 0) (hoctets : octets ≠ []) :
    ∃ n s', w octets s = (.ok n, s') ∧ 0 < n ∧ n ≤ octets.length ∧ Room.Fits n room ∧
      w.HasRoom reason (Room.after n room) s' := by
  rcases h with ⟨R, hkeeps, hR⟩
  rcases hkeeps.takes room s hR hroom octets hoctets with ⟨n, s', hw, hpos, hle, hfits, hR'⟩
  exact ⟨n, s', hw, hpos, hle, hfits, R, hkeeps, hR'⟩

end Writer.HasRoom

/-! ## Procedures that write -/

/-- A procedure writes octets and comes to a result: a writer with room for them takes them, and one
without takes as many as it has room for, and the procedure fails with its reason. -/
structure Writes (w : Writer σ) (fault : String → ε) (m : ExceptT ε (StateM (Output σ)) α)
    (octets : List UInt8) (a : α) : Prop where
  whole : ∀ reason room s taken, w.HasRoom reason room s → Room.Fits octets.length room →
    ∃ s', m ⟨taken, s⟩ = (.ok a, ⟨taken ++ octets, s'⟩) ∧
      w.HasRoom reason (Room.after octets.length room) s'
  cut : ∀ reason limit s taken, w.HasRoom reason (some limit) s → limit < octets.length →
    ∃ s', m ⟨taken, s⟩ = (.error (fault reason), ⟨taken ++ octets.take limit, s'⟩)

namespace Output

variable {m : ExceptT ε (StateM (Output σ)) α} {out out' : Output σ}

theorem bind_of_ok {a : α} (h : m out = (.ok a, out')) (f : α → ExceptT ε (StateM (Output σ)) β) :
    (m >>= f) out = f a out' := by
  show ExceptT.bindCont f (m out).1 (m out).2 = _
  rw [h]
  rfl

theorem bind_of_error {e : ε} (h : m out = (.error e, out'))
    (f : α → ExceptT ε (StateM (Output σ)) β) : (m >>= f) out = (.error e, out') := by
  show ExceptT.bindCont f (m out).1 (m out).2 = _
  rw [h]
  rfl

end Output

namespace Writes

variable {fault : String → ε} {m : ExceptT ε (StateM (Output σ)) α} {a : α}

theorem pure (a : α) : Writes w fault (Pure.pure a) [] a where
  whole := by
    intro reason room s taken hroom _
    rw [List.append_nil, List.length_nil, Room.after_zero]
    exact ⟨s, rfl, hroom⟩
  cut := by
    intro reason limit s taken _ hlt
    exact absurd hlt (Nat.not_lt_zero limit)

/-- Of two procedures in sequence, the second one writes behind the first, and nothing if the first
one fails. -/
theorem bind {f : α → ExceptT ε (StateM (Output σ)) β} {b : β} (hm : Writes w fault m octets a)
    (hf : Writes w fault (f a) more b) : Writes w fault (m >>= f) (octets ++ more) b where
  whole := by
    intro reason room s taken hroom hfits
    rw [List.length_append] at hfits ⊢
    have hfirst : Room.Fits octets.length room := hfits.of_le (Nat.le_add_right _ _)
    rcases hm.whole reason room s taken hroom hfirst with ⟨s₁, hrun, hroom₁⟩
    rcases hf.whole reason _ s₁ (taken ++ octets) hroom₁ hfits.after with ⟨s₂, hrun', hroom₂⟩
    refine ⟨s₂, ?_, ?_⟩
    · rw [Output.bind_of_ok hrun, hrun', List.append_assoc]
    · rwa [← Room.after_after]
  cut := by
    intro reason limit s taken hroom hlt
    rw [List.length_append] at hlt
    by_cases hfirst : octets.length ≤ limit
    · -- the first one fits, and leaves too little room for the second one
      rcases hm.whole reason _ s taken hroom (Room.fits_some_iff.2 hfirst) with ⟨s₁, hrun, hroom₁⟩
      have hsecond : limit - octets.length < more.length := by
        omega
      rcases hf.cut reason _ s₁ (taken ++ octets) hroom₁ hsecond with ⟨s₂, hrun'⟩
      refine ⟨s₂, ?_⟩
      rw [Output.bind_of_ok hrun, hrun', List.take_append, List.take_of_length_le hfirst,
        List.append_assoc]
    · have hfew : limit < octets.length := Nat.lt_of_not_le hfirst
      rcases hm.cut reason limit s taken hroom hfew with ⟨s₁, hrun⟩
      refine ⟨s₁, ?_⟩
      rw [Output.bind_of_error hrun, List.take_append_of_le_length (Nat.le_of_lt hfew)]

theorem seq {m' : ExceptT ε (StateM (Output σ)) β} {b : β} (hm : Writes w fault m octets a)
    (hm' : Writes w fault m' more b) :
    Writes w fault (m >>= fun _ => m') (octets ++ more) b :=
  hm.bind hm'

theorem of_eq (h : Writes w fault m octets a) (heq : octets = more) : Writes w fault m more a :=
  heq ▸ h

/-- A loop writes what its rounds write. -/
theorem forM {ι : Type} {body : ι → ExceptT ε (StateM (Output σ)) PUnit} {each : ι → List UInt8}
    (h : ∀ i, Writes w fault (body i) (each i) ()) (items : List ι) :
    Writes w fault (items.forM body) (items.flatMap each) () := by
  induction items with
  | nil =>
      exact pure ()
  | cons i items ih =>
      exact (h i).bind ih

/-- The way in which a failure is told does not matter. -/
theorem adapt {ε' : Type} {fault' : ε → ε'} (h : Writes w fault m octets a) :
    Writes w (fault' ∘ fault) (ExceptT.adapt fault' m) octets a where
  whole := by
    intro reason room s taken hroom hfits
    rcases h.whole reason room s taken hroom hfits with ⟨s', hrun, hroom'⟩
    refine ⟨s', ?_, hroom'⟩
    show ((m ⟨taken, s⟩).1.mapError fault', (m ⟨taken, s⟩).2) = _
    rw [hrun]
    rfl
  cut := by
    intro reason limit s taken hroom hlt
    rcases h.cut reason limit s taken hroom hlt with ⟨s', hrun⟩
    refine ⟨s', ?_⟩
    show ((m ⟨taken, s⟩).1.mapError fault', (m ⟨taken, s⟩).2) = _
    rw [hrun]
    rfl

end Writes

namespace Writing

theorem loop_of_error {out : Output σ} {s' : σ} (hoctets : octets ≠ [])
    (h : w octets out.writer = (.error reason, s')) :
    loop w octets out = (.error reason, ⟨out.taken, s'⟩) := by
  cases octets with
  | nil =>
      exact absurd rfl hoctets
  | cons octet rest =>
      rw [loop, h]

/-- While there is room, the loop goes on with what the writer has not taken at once. -/
theorem exists_loop_eq (h : w.HasRoom reason room s) (hroom : room ≠ some 0)
    (hoctets : octets ≠ []) :
    ∃ n s', 0 < n ∧ n ≤ octets.length ∧ Room.Fits n room ∧
      w.HasRoom reason (Room.after n room) s' ∧
      ∀ taken, loop w octets ⟨taken, s⟩ =
        loop w (octets.drop n) ⟨taken ++ octets.take n, s'⟩ := by
  rcases h.takes hroom hoctets with ⟨n, s', hw, hpos, hle, hfits, hroom'⟩
  refine ⟨n, s', hpos, hle, hfits, hroom', ?_⟩
  intro taken
  cases octets with
  | nil =>
      exact absurd rfl hoctets
  | cons octet rest =>
      cases n with
      | zero =>
          exact absurd hpos (Nat.lt_irrefl 0)
      | succ n =>
          rw [loop, hw]
          rfl

/-- The loop writes all octets, by induction on how many are left. -/
theorem writes_all (octets : List UInt8) : Writes w id (all w octets) octets () := by
  induction hlength : octets.length using Nat.strongRecOn generalizing octets with
  | _ length ih =>
      by_cases hnone : octets = []
      · have hall : all w octets = Pure.pure () := by
          funext out
          show loop w octets out = _
          rw [hnone, loop]
          rfl
        rw [hall, hnone]
        exact .pure ()
      have hmore : ∀ n, 0 < n → n ≤ octets.length →
          Writes w id (all w (octets.drop n)) (octets.drop n) () := by
        intro n hpos hle
        have hdrop : (octets.drop n).length < length := by
          rw [List.length_drop]
          omega
        exact ih _ hdrop _ rfl
      constructor
      · intro reason room s taken hroom hfits
        have hfree : room ≠ some 0 := by
          rintro rfl
          exact hnone (List.length_eq_zero_iff.1 (Nat.le_zero.1 (Room.fits_some_iff.1 hfits)))
        rcases exists_loop_eq hroom hfree hnone with ⟨n, s₁, hpos, hle, _, hroom₁, hloop⟩
        have hsum : n + (octets.drop n).length = octets.length := by
          rw [List.length_drop, Nat.add_sub_cancel' hle]
        rw [← hsum] at hfits
        rcases (hmore n hpos hle).whole reason _ s₁ (taken ++ octets.take n) hroom₁ hfits.after with
          ⟨s₂, hrun, hroom₂⟩
        rw [Room.after_after, hsum] at hroom₂
        refine ⟨s₂, ?_, hroom₂⟩
        calc
          all w octets ⟨taken, s⟩ = all w (octets.drop n) ⟨taken ++ octets.take n, s₁⟩ :=
            hloop taken
          _ = (.ok (), ⟨taken ++ octets, s₂⟩) := by
            rw [hrun, List.append_assoc, List.take_append_drop]
      · intro reason limit s taken hroom hlt
        by_cases hzero : limit = 0
        · subst hzero
          rcases hroom.full hnone with ⟨s', hw⟩
          refine ⟨s', ?_⟩
          rw [List.take_zero, List.append_nil]
          exact loop_of_error hnone hw
        · have hfree : (some limit : Room) ≠ some 0 := fun h => hzero (Option.some.inj h)
          rcases exists_loop_eq hroom hfree hnone with ⟨n, s₁, hpos, hle, hfits, hroom₁, hloop⟩
          have hn : n ≤ limit := Room.fits_some_iff.1 hfits
          have hleft : limit - n < (octets.drop n).length := by
            rw [List.length_drop]
            omega
          rcases (hmore n hpos hle).cut reason _ s₁ (taken ++ octets.take n) hroom₁ hleft with
            ⟨s₂, hrun⟩
          have hparts : octets.take n ++ (octets.drop n).take (limit - n) = octets.take limit := by
            rw [← List.take_add, Nat.add_sub_cancel' hn]
          refine ⟨s₂, ?_⟩
          calc
            all w octets ⟨taken, s⟩ = all w (octets.drop n) ⟨taken ++ octets.take n, s₁⟩ :=
              hloop taken
            _ = (.error reason, ⟨taken ++ octets.take limit, s₂⟩) := by
              rw [hrun, List.append_assoc, hparts]
              rfl

theorem writes_put (texts : List String) :
    Writes w id (put w texts) (texts.flatMap Delivery.octets) () :=
  .forM (fun _ => writes_all _) texts

/-- The texts of a line are written as one. -/
theorem writes_line {texts : List String} {text : String} (h : String.join texts = text) :
    Writes w id (line w texts) (Delivery.octets (text ++ "\n")) () := by
  have hoctets : (texts ++ ["\n"]).flatMap Delivery.octets =
      Delivery.octets (text ++ "\n") := by
    rw [← h, List.flatMap_append]
    simp only [Delivery.octets, String.toList_append, String.toList_join, List.flatMap_append,
      List.flatMap_assoc]
    rfl
  exact (writes_put _).of_eq hoctets

end Writing

end WorkflowLint
