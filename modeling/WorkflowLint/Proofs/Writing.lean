import WorkflowLint.Proofs.Check
import WorkflowLint.Proofs.Writers

/-!
# Writing — a failing writer receives exactly a prefix

A report is written in many small parts, in nested loops and by an encoder. Whatever the form, the
procedure writes the text of the report (`Report.writes`), and a command the text of its run
(`Command.writes`), so a writer that fails on the way has received the beginning of it, nothing
skipped and nothing twice (`Writer.HasRoom.receives_beginning`). The beginning may end anywhere,
inside a character too. With this, a command that is carried out step by step delivers what its run
delivers (`Command.execute_eq_deliver`).
-/

namespace WorkflowLint

open Writing (writes_put writes_line)

variable {σ ε α : Type} {w : Writer σ} {reason : String} {room : Room} {s : σ} {octets : List UInt8}

/-! ## Reports for readers -/

theorem Style.join_parts (style : Style) (text : String) :
    String.join (style.parts text) = style.apply text := by
  rw [parts, apply]
  split
  · simp
  · rw [← String.toList_inj]
    simp [String.toList_join]

namespace Report

/-- Lines as they are written. -/
def lineOctets (lines : List String) : List UInt8 :=
  lines.flatMap fun line => Delivery.octets (line ++ "\n")

theorem writes_block (title : String) {mark : List String} {shown : String}
    (hmark : String.join mark = shown) (findings : Findings) :
    Writes w id (writeBlock w title mark findings) (lineOctets (block title shown findings))
      () := by
  unfold writeBlock block
  cases hnone : findings.isEmpty with
  | true =>
      exact .pure ()
  | false =>
      have htitle : String.join [title, " (", toString findings.length, "):"] =
          title ++ " (" ++ toString findings.length ++ "):" := by
        simp [← String.toList_inj]
      have hitem : ∀ d : Diagnostic, String.join (["  "] ++ mark ++ ["  ", d.message]) =
          item shown d := by
        intro d
        rw [item, ← hmark, ← String.toList_inj]
        simp [String.toList_join]
      have hall := (writes_line (w := w) String.join_nil).seq ((writes_line htitle).seq
        (Writes.forM (fun d : Diagnostic => writes_line (hitem d)) findings))
      refine hall.of_eq ?_
      simp [lineOctets, List.flatMap_map]

theorem octets_human (palette : Palette) (r : Report) :
    Delivery.octets (human palette r) = lineOctets (lines palette r) := by
  rw [human, Delivery.octets, String.toList_join, List.flatMap_assoc, List.flatMap_map]
  rfl

theorem writes_human (palette : Palette) (r : Report) :
    Writes w id (writeHuman w palette r) (Delivery.octets (human palette r)) () := by
  have hlocation : String.join ["Validating: ", r.location] = "Validating: " ++ r.location := by
    simp
  have hrule : String.join [rule] = rule := by
    simp
  have hwarnings := writes_block (w := w) "Warnings" (palette.warning.join_parts warningMark)
    r.findings.warnings
  have herrors := writes_block (w := w) "Errors" (palette.error.join_parts errorMark)
    r.findings.errors
  have hresult : Writes w id
      (if r.passed then
        Writing.line w (palette.passed.parts "RESULT: PASS" ++
          [" (0 errors, ", toString r.findings.warnings.length, " warning(s))"])
      else
        Writing.line w (palette.failed.parts "RESULT: FAIL" ++
          [" (", toString r.findings.errors.length, " error(s), ",
            toString r.findings.warnings.length, " warning(s))"]))
      (Delivery.octets (result palette r ++ "\n")) () := by
    unfold result
    split
    · refine writes_line ?_
      rw [← Style.join_parts, ← String.toList_inj]
      simp [String.toList_join]
    · refine writes_line ?_
      rw [← Style.join_parts, ← String.toList_inj]
      simp [String.toList_join]
  have hall := (writes_line (w := w) hlocation).seq ((writes_line hrule).seq
    (hwarnings.seq (herrors.seq ((writes_line String.join_nil).seq hresult))))
  refine hall.of_eq ?_
  rw [octets_human]
  simp [lineOctets, lines]

end Report

/-! ## Reports for programs -/

namespace Json

theorem writes_chars (cs : List Char) :
    Writes w id (putChars w cs) (cs.flatMap String.utf8EncodeChar) () :=
  .forM (fun _ => Writing.writes_all _) cs

theorem writes_string (s : String) :
    Writes w id (putString w s) ((quote s).flatMap String.utf8EncodeChar) () := by
  have hall := (writes_put (w := w) ["\""]).seq
    ((Writes.forM (fun c => writes_chars (escape c)) s.toList).seq (writes_put ["\""]))
  refine hall.of_eq ?_
  simp [quote, Delivery.octets, List.flatMap_assoc]

theorem writes_newline (level : Nat) :
    Writes w id (putNewline w level) ((newline level).flatMap String.utf8EncodeChar) () := by
  have hindent : (List.replicate level "  ").flatMap (fun text => [text].flatMap Delivery.octets) =
      (List.replicate (2 * level) ' ').flatMap String.utf8EncodeChar := by
    induction level with
    | zero =>
        rfl
    | succ level ih =>
        rw [List.replicate_succ, List.flatMap_cons, ih, Nat.mul_succ, List.replicate_succ,
          List.replicate_succ]
        rfl
  have hall := (writes_put (w := w) ["\n"]).seq
    (Writes.forM (fun text => writes_put [text]) (List.replicate level "  "))
  refine hall.of_eq ?_
  rw [hindent]
  simp [newline, Delivery.octets]

mutual

theorem writes_value (level : Nat) (v : Value) :
    Writes w id (v.put w level) ((v.write level).flatMap String.utf8EncodeChar) () := by
  cases v with
  | string s =>
      exact writes_string s
  | number n =>
      exact (writes_put [toString n]).of_eq (List.append_nil _)
  | bool b =>
      exact (writes_put [toString b]).of_eq (List.append_nil _)
  | array items =>
      cases items with
      | nil =>
          exact (writes_put ["[", "]"]).of_eq rfl
      | cons v items =>
          have hall := (writes_put (w := w) ["["]).seq ((writes_newline (level + 1)).seq
            ((writes_value (level + 1) v).seq (writes_items level items)))
          refine hall.of_eq ?_
          simp [Value.write, Delivery.octets]
  | object members =>
      cases members with
      | nil =>
          exact (writes_put ["\x7b", "\x7d"]).of_eq rfl
      | cons m members =>
          rcases m with ⟨key, v⟩
          have hall := (writes_put (w := w) ["\x7b"]).seq ((writes_newline (level + 1)).seq
            ((writes_string key).seq ((writes_put [": "]).seq
              ((writes_value (level + 1) v).seq (writes_members level members)))))
          refine hall.of_eq ?_
          simp [Value.write, Delivery.octets]

theorem writes_items (level : Nat) (items : List Value) :
    Writes w id (putItems w level items)
      ((writeItems level items).flatMap String.utf8EncodeChar) () := by
  cases items with
  | nil =>
      have hall := (writes_newline (w := w) level).seq (writes_put ["]"])
      refine hall.of_eq ?_
      simp [writeItems, Delivery.octets]
  | cons v items =>
      have hall := (writes_put (w := w) [","]).seq ((writes_newline (level + 1)).seq
        ((writes_value (level + 1) v).seq (writes_items level items)))
      refine hall.of_eq ?_
      simp [writeItems, Delivery.octets]

theorem writes_members (level : Nat) (members : List (String × Value)) :
    Writes w id (putMembers w level members)
      ((writeMembers level members).flatMap String.utf8EncodeChar) () := by
  cases members with
  | nil =>
      have hall := (writes_newline (w := w) level).seq (writes_put ["\x7d"])
      refine hall.of_eq ?_
      simp [writeMembers, Delivery.octets]
  | cons m members =>
      rcases m with ⟨key, v⟩
      have hall := (writes_put (w := w) [","]).seq ((writes_newline (level + 1)).seq
        ((writes_string key).seq ((writes_put [": "]).seq
          ((writes_value (level + 1) v).seq (writes_members level members)))))
      refine hall.of_eq ?_
      simp [writeMembers, Delivery.octets]

end

end Json

namespace Report

/-- In both forms, the procedure writes the text of the report. -/
theorem writes (palette : Palette) (r : Report) (format : Format) :
    Writes w id (r.write w palette format) (Delivery.octets (r.text palette format)) () := by
  cases format with
  | human =>
      exact r.writes_human palette
  | json =>
      have hall := (Json.writes_value (w := w) 0 r.toJson).seq (writes_line String.join_nil)
      refine hall.of_eq ?_
      simp [text, machine, Json.Value.text, Delivery.octets]

end Report

/-! ## Commands -/

/-- A command over fixed contents of the files. -/
def Command.onFiles (read : String → Contents) (palette : Palette) (root : String)
    (c : Option Command) : Run :=
  (Command.run (m := Id) (fun location => pure (read location)) palette root c).run

section

variable {read : String → Contents} {palette : Palette} {root : String}

theorem Check.execute_of_error {o : CheckOptions} {e : Failure}
    (h : policyOnFiles read root o = .error e) (out : Output σ) :
    execute w read palette root o out = (.error e, out) := by
  rw [policyOnFiles] at h
  refine Output.bind_of_error (e := e) ?_ _
  rw [h]
  rfl

theorem Check.writes {o : CheckOptions} {out : Outcome}
    (h : (onFiles read palette root o).outcome = .ok out) :
    Writes w Failure.unwritable (execute w read palette root o)
      (out.pieces.flatMap Delivery.octets) out.passed := by
  cases hpolicy : policyOnFiles read root o with
  | error e =>
      rw [outcome_onFiles_of_error hpolicy] at h
      cases h
  | ok p =>
      rw [outcome_onFiles_of_ok palette hpolicy] at h
      cases h
      have hload : (ExceptT.mk
          (Pure.pure (loadPolicy (m := Id) (fun location => Pure.pure (read location)) root o).run) :
          Execution σ Policy) = Pure.pure p := by
        rw [policyOnFiles] at hpolicy
        rw [hpolicy]
        rfl
      have hreport : ∀ r : Report, Writes w Failure.unwritable
          ((r.write w palette o.format).adapt .unwritable >>= fun _ => Pure.pure r.passed)
          ((r.pieces palette o.format).flatMap Delivery.octets) r.passed := by
        intro r
        rw [Report.flatMap_octets_pieces]
        exact ((r.writes palette o.format).adapt.seq (.pure r.passed)).of_eq (List.append_nil _)
      rw [execute, hload]
      exact (Writes.pure p).bind (hreport _)

theorem Rules.writes :
    Writes w Failure.unwritable (execute w)
      (((lines .builtins).map (· ++ "\n")).flatMap Delivery.octets) true := by
  have hlist : Writes w id ((Registry.builtins.zipIdx).forM fun r =>
      Writing.line w [Text.padLeft 2 (toString (r.2 + 1)), ". ", Text.padRight 22 r.1.id, " ",
        Text.padRight 8 r.1.severity.name, " ", r.1.description])
      ((Registry.builtins.zipIdx).flatMap fun r =>
        Delivery.octets (line (r.2 + 1) r.1 ++ "\n")) () := by
    refine .forM ?_ _
    intro r
    refine writes_line ?_
    simp [line, String.append_assoc]
  refine (hlist.adapt.seq (.pure true)).of_eq ?_
  rw [List.append_nil, lines, List.map_map, List.flatMap_map]
  rfl

theorem Command.writes {c : Option Command} {out : Outcome}
    (h : (onFiles read palette root c).outcome = .ok out) :
    Writes w Failure.unwritable (execute w read palette root c)
      (out.pieces.flatMap Delivery.octets) out.passed := by
  cases c with
  | none =>
      exact Check.writes h
  | some c =>
      cases c with
      | check o =>
          exact Check.writes h
      | rules =>
          cases h
          exact Rules.writes

/-- A command that comes to a failure has written nothing. -/
theorem Command.execute_of_error {c : Option Command} {e : Failure}
    (h : (onFiles read palette root c).outcome = .error e) (out : Output σ) :
    execute w read palette root c out = (.error e, out) := by
  have hcheck : ∀ o, (Check.onFiles read palette root o).outcome = .error e →
      Check.execute w read palette root o out = (.error e, out) := by
    intro o ho
    cases hpolicy : Check.policyOnFiles read root o with
    | error e' =>
        rw [Check.outcome_onFiles_of_error hpolicy] at ho
        cases ho
        exact Check.execute_of_error hpolicy out
    | ok p =>
        rw [Check.outcome_onFiles_of_ok palette hpolicy] at ho
        cases ho
  cases c with
  | none =>
      exact hcheck _ h
  | some c =>
      cases c with
      | check o =>
          exact hcheck o h
      | rules =>
          cases h

theorem deliver_eq_of_ok {run : Run} {out : Outcome} (h : run.outcome = .ok out) (limit : Nat) :
    Run.deliver (some limit) run =
      ((out.pieces.flatMap Delivery.octets).take limit,
        if (out.pieces.flatMap Delivery.octets).length ≤ limit then .ok out.passed
        else .error (.unwritable Delivery.fullReason)) := by
  rw [Run.deliver, h]
  show ((Delivery.limited limit out.pieces).accepted,
    if (Delivery.limited limit out.pieces).complete = true then _ else _) = _
  simp only [Delivery.accepted_limited, Delivery.complete_limited]

/-- Carrying a command out step by step delivers what its run delivers. -/
theorem Command.execute_eq_deliver (hroom : w.HasRoom Delivery.fullReason room s)
    (read : String → Contents) (palette : Palette) (root : String) (c : Option Command) :
    ∃ s', execute w read palette root c ⟨[], s⟩ =
      ((Run.deliver room (onFiles read palette root c)).2,
        ⟨(Run.deliver room (onFiles read palette root c)).1, s'⟩) := by
  cases houtcome : (onFiles read palette root c).outcome with
  | error e =>
      refine ⟨s, ?_⟩
      rw [execute_of_error houtcome, Run.deliver, houtcome]
  | ok out =>
      have hwrites := Command.writes (w := w) houtcome
      cases room with
      | none =>
          rcases hwrites.whole _ none s [] hroom (Room.fits_none _) with ⟨s', hrun, _⟩
          rw [Run.deliver, houtcome]
          exact ⟨s', hrun⟩
      | some limit =>
          rw [deliver_eq_of_ok houtcome]
          by_cases hle : (out.pieces.flatMap Delivery.octets).length ≤ limit
          · rcases hwrites.whole _ _ s [] hroom (Room.fits_some_iff.2 hle) with ⟨s', hrun, _⟩
            rw [if_pos hle, List.take_of_length_le hle]
            exact ⟨s', hrun⟩
          · rcases hwrites.cut _ limit s [] hroom (Nat.lt_of_not_le hle) with ⟨s', hrun⟩
            rw [if_neg hle]
            exact ⟨s', hrun⟩

end

/-! ## Failing writers -/

/-- What two writers receive, one that takes everything and one that takes so many octets: all of
them and the result, or the first of them and a failure for its reason. -/
structure Receives {τ : Type} (octets : List UInt8) (limit : Nat) (failure : ε) (a : α)
    (free : Except ε α × Output τ) (ran : Except ε α × Output σ) : Prop where
  free : free.1 = .ok a ∧ free.2.taken = octets
  whole : octets.length ≤ limit → ran.1 = .ok a ∧ ran.2.taken = octets
  cut : limit < octets.length → ran.1 = .error failure ∧ ran.2.taken = octets.take limit

theorem Writes.receives {τ : Type} {u : Writer τ} {t : τ} {limit : Nat} {reason' : String}
    {fault : String → ε} {m : ExceptT ε (StateM (Output σ)) α}
    {m' : ExceptT ε (StateM (Output τ)) α} {a : α}
    (h : Writes w fault m octets a) (h' : Writes u fault m' octets a)
    (hw : w.HasRoom reason (some limit) s) (hu : u.HasRoom reason' none t) :
    Receives octets limit (fault reason) a (m' ⟨[], t⟩) (m ⟨[], s⟩) where
  free := by
    rcases h'.whole reason' none t [] hu (Room.fits_none _) with ⟨t', hrun, _⟩
    rw [hrun]
    exact ⟨rfl, rfl⟩
  whole := by
    intro hle
    rcases h.whole reason _ s [] hw (Room.fits_some_iff.2 hle) with ⟨s', hrun, _⟩
    rw [hrun]
    exact ⟨rfl, rfl⟩
  cut := by
    intro hlt
    rcases h.cut reason limit s [] hw hlt with ⟨s', hrun⟩
    rw [hrun]
    exact ⟨rfl, rfl⟩

/-- A writer that takes so many octets in total, in whatever parts, and then fails receives what a
writer without limits receives, if that is no more, and else exactly the beginning of it. Then
writing a report in any form fails for the reason of the writer, and so does any command whose run
comes to an outcome, which are the list of rules and every check with a policy. -/
theorem Writer.HasRoom.receives_beginning {τ : Type} {u : Writer τ} {t : τ} {limit : Nat}
    {reason' : String} (hw : w.HasRoom reason (some limit) s) (hu : u.HasRoom reason' none t) :
    (∀ palette (r : Report) format,
      Receives (Delivery.octets (r.text palette format)) limit reason ()
        (r.write u palette format ⟨[], t⟩) (r.write w palette format ⟨[], s⟩)) ∧
    ∀ read palette root c out, (Command.onFiles read palette root c).outcome = .ok out →
      Receives (out.pieces.flatMap Delivery.octets) limit (Failure.unwritable reason) out.passed
        (Command.execute u read palette root c ⟨[], t⟩)
        (Command.execute w read palette root c ⟨[], s⟩) := by
  constructor
  · intro palette r format
    exact Writes.receives (r.writes palette format) (r.writes palette format) hw hu
  · intro read palette root c out hout
    exact Writes.receives (Command.writes hout) (Command.writes hout) hw hu

/-! ### A writer that sips -/

namespace Writer

/-- A writer that takes everything at once. -/
def gulps : Writer Unit := fun octets _ => (.ok octets.length, ())

/-- A writer with room for a number of octets that takes two at a time. -/
def sips : Writer Nat := fun octets left =>
  if left = 0 then (.error "writer is full", 0)
  else
    let n := min 2 (min octets.length left)
    (.ok n, left - n)

theorem hasRoom_gulps (reason : String) : gulps.HasRoom reason none () := by
  refine ⟨fun room _ => room = none, ⟨nofun, ?_⟩, rfl⟩
  rintro _ _ rfl _ octets hoctets
  exact ⟨octets.length, (), rfl, List.length_pos_iff.2 hoctets, Nat.le_refl _, Room.fits_none _,
    rfl⟩

theorem hasRoom_sips (limit : Nat) : sips.HasRoom "writer is full" (some limit) limit := by
  refine ⟨fun room left => room = some left, ⟨?_, ?_⟩, rfl⟩
  · rintro _ ⟨⟩ octets _
    rfl
  · rintro _ left rfl hleft octets hoctets
    have hpos : 0 < left := Nat.pos_of_ne_zero fun h => hleft (congrArg some h)
    have hlength := List.length_pos_iff.2 hoctets
    refine ⟨min 2 (min octets.length left), left - min 2 (min octets.length left), ?_, ?_, ?_, ?_,
      rfl⟩
    · rw [sips, if_neg (Nat.ne_of_gt hpos)]
    · omega
    · omega
    · rw [Room.fits_some_iff]
      omega

end Writer

/-- A report with one warning. -/
def advised : Report :=
  ⟨"w.yml", [⟨"build-job", .warning, "old", none⟩], false⟩

/-- The room ends inside the glyph of the warning, which has three octets. -/
theorem Writer.HasRoom.receives_beginning_advised :
    (Writer.sips).HasRoom "writer is full" (some 97) 97 ∧
      (Writer.gulps).HasRoom "" none () ∧
      97 < (Delivery.octets (advised.text .plain .human)).length ∧
      (advised.write Writer.sips .plain .human ⟨[], 97⟩).1 = .error "writer is full" ∧
      (advised.write Writer.sips .plain .human ⟨[], 97⟩).2.taken =
        (Delivery.octets (advised.text .plain .human)).take 97 ∧
      ((Delivery.octets (advised.text .plain .human)).take 97).getLast? = some 0xE2 := by
  have hsips := Writer.hasRoom_sips 97
  have hgulps := Writer.hasRoom_gulps ""
  have hcut : 97 < (Delivery.octets (advised.text .plain .human)).length := by
    decide +kernel
  have hend : ((Delivery.octets (advised.text .plain .human)).take 97).getLast? = some 0xE2 := by
    decide +kernel
  rcases Writer.HasRoom.receives_beginning hsips hgulps with ⟨hreports, _⟩
  rcases (hreports .plain advised .human).cut hcut with ⟨hfailed, htaken⟩
  exact ⟨hsips, hgulps, hcut, hfailed, htaken, hend⟩

end WorkflowLint
