import Mathlib.Data.List.Forall2
import WorkflowLint.Proofs.Yaml.Reading

/-!
# Nodes — what the nodes of a document hold

Values forget how a scalar was written, but readers of fields take it as it was. This module says
what a node holds as it stands in the document: an alias holds what the node holds that it stands
for (`Document.target`), and a scalar its text (`Document.text?`). When a node is read as a value,
these are what any other reader meets, and it meets them after as many aliases
(`Document.exists_body_of_ofNode`).
-/

namespace WorkflowLint
namespace Yaml

open Value (ofNode ofItems ofEntries ofScalar)

namespace Document

/-- The node that a node stands for. Only an alias stands for another one. -/
def target (d : Document) : Node → Node
  | .alias _ number => (d.root.bind (·.find? number)).getD .cut
  | n => n

/-- The text of a scalar. -/
def text? (d : Document) (n : Node) : Option String :=
  match d.target n with
  | .content _ _ _ (.scalar _ text) => some text
  | _ => none

/-- The entries of the mapping at the root. -/
def entries (d : Document) : List (Node × Node) :=
  match d.root with
  | some (.content _ _ _ (.mapping entries)) => entries
  | _ => []

/-- A node is read as a value. -/
def ReadAs (d : Document) (n : Node) (v : Value) : Prop :=
  ∃ depth path jumps jumps', ofNode d depth n path jumps = .ok (v, jumps')

/-- The entries at the root have strings as names, and their values are read as these values. -/
def HoldsEntries (d : Document) (entries : List (Value × Value)) : Prop :=
  List.Forall₂ (fun e n => (∃ name, e.1 = .string name ∧ d.text? n.1 = some name) ∧
    d.ReadAs n.2 e.2) entries d.entries

variable {d : Document} {n n' : Node} {v : Value} {path path' : Path}
  {depth jumps jumps' : Nat}

/-- Where an alias leads does not depend on the path to it. -/
theorem of_follow_eq_ok (h : d.follow n path jumps = .ok ((n', path'), jumps')) :
    n' = d.target n ∧
      ∀ other, ∃ other', d.follow n other jumps = .ok ((n', other'), jumps') := by
  cases n with
  | «alias» mark number =>
      simp only [follow] at h ⊢
      split at h
      · cases h
      · next hfew =>
        cases h
        refine ⟨rfl, ?_⟩
        intro other
        rw [if_neg hfew]
        exact ⟨_, rfl⟩
  | _ =>
      cases h
      exact ⟨rfl, fun other => ⟨other, rfl⟩⟩

/-- What a node holds that is read as a value. -/
theorem exists_body_of_ofNode (h : ofNode d depth n path jumps = .ok (v, jumps')) :
    ∃ number mark tag body start, d.target n = .content number mark tag body ∧
      (∀ other, ∃ other',
        d.follow n other jumps = .ok ((.content number mark tag body, other'), start)) ∧
      (∀ style text, body = .scalar style text → start = jumps') ∧
      ∀ items, body = .sequence items → ∃ depth path' values,
        ofItems (ofNode d depth) path' 0 items start = .ok (values, jumps') := by
  cases Value.of_ofNode_eq_ok h with
  | scalar follow value =>
      rcases of_follow_eq_ok follow with ⟨htarget, hfollow⟩
      exact ⟨_, _, _, _, _, htarget.symm, hfollow, fun _ _ _ => rfl, nofun⟩
  | sequence follow read value =>
      rcases of_follow_eq_ok follow with ⟨htarget, hfollow⟩
      refine ⟨_, _, _, _, _, htarget.symm, hfollow, nofun, ?_⟩
      rintro items ⟨⟩
      exact ⟨_, _, _, read⟩
  | mapping follow read value =>
      rcases of_follow_eq_ok follow with ⟨htarget, hfollow⟩
      exact ⟨_, _, _, _, _, htarget.symm, hfollow, nofun, nofun⟩

theorem eq_of_ofScalar_string {tag : Option Octets} {style : ScalarStyle} {text s : String}
    (h : ofScalar tag style text = .ok (.string s)) : text = s := by
  rw [ofScalar] at h
  split at h
  · rcases of_map_eq_ok h with ⟨_, _, htagged⟩
    cases htagged
  · rcases of_bind_eq_ok h with ⟨m, _, hmeaning⟩
    cases m with
    | string =>
        cases hmeaning
        rfl
    | integer i =>
        rw [Value.ofMeaning] at hmeaning
        split at hmeaning <;> cases hmeaning
    | _ =>
        cases hmeaning

/-- A node that is read as a string is a scalar with that text. -/
theorem text?_of_readAs_string {text : String} (h : d.ReadAs n (.string text)) :
    d.text? n = some text := by
  rcases h with ⟨_, _, _, _, h⟩
  cases Value.of_ofNode_eq_ok h with
  | scalar follow value =>
      rw [text?, ← (of_follow_eq_ok follow).1, eq_of_ofScalar_string value]
  | sequence follow read value =>
      rw [Value.underTag] at value
      split at value <;> cases value
  | mapping follow read value =>
      rw [Value.underTag] at value
      split at value <;> cases value

end Document

/-! ## Mappings -/

namespace Value

variable {d : Document} {path : Path} {depth jumps jumps' : Nat}

theorem of_ofEntries_cons {mark : Mark} {done values : List (Value × Value)} {k v : Node}
    {rest : List (Node × Node)}
    (h : ofEntries (ofNode d depth) mark path done ((k, v) :: rest) jumps =
      .ok (values, jumps')) :
    ∃ key value start middle, ofNode d depth k path jumps = .ok (key, start) ∧
      ofNode d depth v (entryPath path k) start = .ok (value, middle) ∧
      ofEntries (ofNode d depth) mark path (done ++ [(key, value)]) rest middle =
        .ok (values, jumps') := by
  rw [ofEntries, Reading.bind_eq_ok_iff] at h
  rcases h with ⟨key, start, hkey, h⟩
  cases hfound : findKey? key done with
  | some first =>
      rw [hfound] at h
      cases h
  | none =>
      rw [hfound] at h
      rcases Reading.bind_eq_ok_iff.1 h with ⟨value, middle, hvalue, h⟩
      exact ⟨key, value, start, middle, hkey, hvalue, h⟩

theorem exists_readAs_of_ofEntries {mark : Mark} {done values : List (Value × Value)}
    {nodes : List (Node × Node)}
    (h : ofEntries (ofNode d depth) mark path done nodes jumps = .ok (values, jumps')) :
    ∃ read, values = done ++ read ∧
      List.Forall₂ (fun e n => d.ReadAs n.1 e.1 ∧ d.ReadAs n.2 e.2) read nodes := by
  induction nodes generalizing done jumps with
  | nil =>
      cases h
      exact ⟨[], (List.append_nil _).symm, .nil⟩
  | cons e rest ih =>
      rcases e with ⟨k, v⟩
      rcases of_ofEntries_cons h with ⟨key, value, start, middle, hkey, hvalue, hrest⟩
      rcases ih hrest with ⟨read, rfl, hread⟩
      refine ⟨(key, value) :: read, by rw [List.append_assoc, List.singleton_append], ?_⟩
      exact .cons ⟨⟨_, _, _, _, hkey⟩, ⟨_, _, _, _, hvalue⟩⟩ hread

/-- The root of a document that is read as a mapping is a mapping itself. -/
theorem root_of_ofDocument_eq_mapping {entries : List (Value × Value)}
    (h : ofDocument d = .ok (.mapping entries)) :
    ∃ number mark tag depth jumps,
      d.root = some (.content number mark tag (.mapping d.entries)) ∧
      ofEntries (ofNode d depth) mark .root [] d.entries 0 = .ok (entries, jumps) := by
  rcases Document.root_of_decode_eq_ok h with ⟨_, hnull⟩ | ⟨n, jumps, hroot, hread⟩
  · cases hnull
  · rcases of_ofNode_eq_mapping hread with
      ⟨number, mark, tag, nodes, path', start, depth, hfollow, hentries⟩
    cases n with
    | content number' mark' tag' body =>
        cases hfollow
        have hnodes : d.entries = nodes := by
          rw [Document.entries, hroot]
        rw [hnodes]
        exact ⟨_, _, _, _, _, hroot, hentries⟩
    | «alias» mark' target =>
        -- an alias at the root would have to stand for itself
        have htarget := (Document.of_follow_eq_ok hfollow).1
        rw [Document.target, hroot] at htarget
        cases htarget
    | cut =>
        cases hfollow

theorem holdsEntries_of_ofDocument {entries : List (Value × Value)}
    (h : ofDocument d = .ok (.mapping entries))
    (hkeys : ∀ e ∈ entries, ∃ name, e.1 = .string name) : d.HoldsEntries entries := by
  rcases root_of_ofDocument_eq_mapping h with ⟨_, _, _, _, _, _, hread⟩
  rcases exists_readAs_of_ofEntries hread with ⟨read, hentries, hread⟩
  rw [List.nil_append] at hentries
  subst hentries
  refine ((List.forall₂_and_left _ _).2 ⟨hkeys, hread⟩).imp ?_
  rintro e n ⟨⟨name, hname⟩, hkey, hvalue⟩
  rw [hname] at hkey
  exact ⟨⟨name, hname, Document.text?_of_readAs_string hkey⟩, hvalue⟩

end Value

end Yaml
end WorkflowLint
