import Mathlib.Data.List.Basic
import WorkflowLint.Proofs.Json.RoundTrip
import WorkflowLint.Report.Machine

/-!
# Machine — a report for programs says all that the report holds

The text of a report for programs is one value and a line feed. Decoding it gives the location, the
diagnostics in order and the summary, with nothing lost and nothing added (`Report.decode_machine`).
So the text tells reports apart, except for how strictly findings are judged that come to the same
either way.
-/

namespace WorkflowLint

open Json (Datum)

namespace Findings

/-- Every diagnostic is an error or a warning. -/
theorem length_errors_add_length_warnings (f : Findings) :
    f.errors.length + f.warnings.length = f.length := by
  have hother : ∀ s : Severity, (!(s == .error)) = (s == .warning) := by
    intro s
    cases s <;> rfl
  have hlength := List.length_eq_length_filter_add (l := f) fun d => d.severity == .error
  simp only [hother] at hlength
  exact hlength.symm

end Findings

/-! ## Diagnostics -/

namespace Diagnostic

/-- What a report says of a diagnostic. Only with a suggestion there is a member for one. -/
def datum (d : Diagnostic) : Datum :=
  .object <|
    ("rule_id", .string d.rule) :: ("severity", .string d.severity.name) ::
      ("message", .string d.message) ::
      match d.suggestion with
      | none => []
      | some suggestion => [("suggestion", .string suggestion)]

theorem datum_toJson (d : Diagnostic) : d.toJson.datum = d.datum := by
  rcases d with ⟨rule, severity, message, suggestion⟩
  cases suggestion with
  | none =>
      rfl
  | some suggestion =>
      rfl

theorem datum_injective {d d' : Diagnostic} (h : d.datum = d'.datum) : d = d' := by
  rcases d with ⟨rule, severity, message, suggestion⟩
  rcases d' with ⟨rule', severity', message', suggestion'⟩
  simp only [datum, Datum.object.injEq, List.cons.injEq, Prod.mk.injEq, Datum.string.injEq,
    true_and] at h
  rcases h with ⟨rfl, hseverity, rfl, hsuggestion⟩
  have hsame : severity = severity' := by
    cases severity <;> cases severity' <;> simp [Severity.name] at hseverity ⊢
  cases hsame
  cases suggestion <;> cases suggestion' <;> simp at hsuggestion ⊢
  exact hsuggestion

end Diagnostic

/-! ## Reports -/

namespace Report

/-- What a report for programs says. -/
def datum (r : Report) : Datum :=
  .object
    [("path", .string r.location),
      ("diagnostics", .array (r.findings.map Diagnostic.datum)),
      ("summary", .object
        [("total", .count r.findings.length),
          ("errors", .count r.findings.errors.length),
          ("warnings", .count r.findings.warnings.length),
          ("passed", .bool (r.findings.passed r.strict))])]

theorem datum_toJson (r : Report) : r.toJson.datum = r.datum := by
  have hdiagnostics : Json.itemData (r.findings.map Diagnostic.toJson) =
      r.findings.map Diagnostic.datum := by
    rw [Json.itemData_eq_map, List.map_map]
    exact List.map_congr_left fun d _ => d.datum_toJson
  simp only [toJson, summary, Json.Value.datum, Json.memberData, hdiagnostics]
  rfl

/-- The value of a report begins and ends with its braces. -/
theorem ends_text (r : Report) :
    r.toJson.text.toList.head? = some '{' ∧ r.toJson.text.toList.getLast? = some '}' := by
  have hlast : ∃ front, r.toJson.write 0 = front ++ ['}'] := by
    simp only [toJson, Json.Value.write, Json.writeMembers, ← List.append_assoc]
    exact ⟨_, rfl⟩
  rw [Json.Value.text, String.toList_ofList]
  refine ⟨rfl, ?_⟩
  rcases hlast with ⟨front, hlast⟩
  rw [hlast, List.getLast?_concat]

theorem decode_text (r : Report) : Json.decode r.toJson.text = some r.datum := by
  rw [Json.decode_text, datum_toJson]

theorem eq_of_datum_eq {r r' : Report} (h : r.datum = r'.datum) :
    r.location = r'.location ∧ r.findings = r'.findings ∧ r.passed = r'.passed := by
  simp only [datum, Datum.object.injEq, Datum.string.injEq, Datum.array.injEq, Datum.bool.injEq,
    List.cons.injEq, Prod.mk.injEq, true_and, and_true] at h
  rcases h with ⟨hlocation, hfindings, _, _, _, hpassed⟩
  have hsame : r.findings = r'.findings :=
    (List.map_inj_right fun _ _ => Diagnostic.datum_injective).1 hfindings
  exact ⟨hlocation, hsame, hpassed⟩

theorem machine_eq_iff (r r' : Report) :
    r.machine = r'.machine ↔
      r.location = r'.location ∧ r.findings = r'.findings ∧ r.passed = r'.passed := by
  constructor
  · intro h
    have htext : r.toJson.text = r'.toJson.text := by
      have hlist := congrArg String.toList h
      rw [machine, machine, String.toList_append, String.toList_append] at hlist
      exact String.toList_inj.1 (List.append_cancel_right hlist)
    have hdatum : some r.datum = some r'.datum := by
      rw [← decode_text r, ← decode_text r', htext]
    exact eq_of_datum_eq (Option.some.inj hdatum)
  · rintro ⟨hlocation, hfindings, hpassed⟩
    rw [machine, machine, toJson, toJson, summary, summary, hlocation, hfindings, hpassed]

/-- The text of a report for programs is a value and one line feed. The value says where the
findings are from, lists all of them in order, and sums them up: how many there are, how many of
each severity, which together are all, and whether the run passes. Two reports have the same text
just if they agree on all that. -/
theorem decode_machine (r : Report) :
    (∃ text, r.machine = text ++ "\n" ∧ text.toList.head? = some '{' ∧
      text.toList.getLast? = some '}' ∧ Json.decode text = some r.datum) ∧
      r.findings.errors.length + r.findings.warnings.length = r.findings.length ∧
      ∀ r' : Report, r'.machine = r.machine ↔
        r'.location = r.location ∧ r'.findings = r.findings ∧ r'.passed = r.passed := by
  refine ⟨⟨r.toJson.text, rfl, r.ends_text.1, r.ends_text.2, r.decode_text⟩,
    r.findings.length_errors_add_length_warnings, ?_⟩
  intro r'
  exact machine_eq_iff r' r

end Report

end WorkflowLint
