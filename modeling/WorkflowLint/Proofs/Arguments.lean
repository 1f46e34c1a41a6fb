import Mathlib.Data.List.Nodup
import WorkflowLint.Proofs.Writing
import WorkflowLint.Program

/-!
# Arguments — options that are written out are read back

Options are written out as arguments, each in its long form (`CommandLine.Choice.argument`). Reading
one of them notes the option and nothing else, if it is known where it stands and has not been given
before (`CommandLine.Progress.read_argument`); so a level comes to what its arguments say together,
in whatever order they stand (`CommandLine.Given.ofChoices`). Options that are known everywhere may
stand on either side of the name of the command. Whatever the order and the sides, what is read is
what was written out (`CommandLine.parse_written`).
-/

namespace WorkflowLint

namespace CommandLine

/-! ## Options in writing -/

/-- An option that is given: a flag, or a setting with its value. -/
inductive Choice
  | flag (f : Flag)
  | setting (s : Setting) (value : String)
  deriving DecidableEq, Repr

namespace Choice

/-- The option without its value. -/
def switch : Choice → Switch
  | .flag f => .flag f
  | .setting s _ => .setting s

/-- The argument that gives the option in its long form. -/
def argument : Choice → String
  | .flag f => "--" ++ (Switch.flag f).name
  | .setting s value => "--" ++ (Switch.setting s).name ++ "=" ++ value

/-- The value of a setting, if this is what is given. -/
def value? (s : Setting) : Choice → Option String
  | .setting t value => if t = s then some value else none
  | .flag _ => none

/-- The option is known in front of the name of a command, too. -/
def isGlobal (a : Choice) : Bool :=
  Level.top.switches.contains a.switch

/-- A value that can be taken: it is not empty, and that of a form is the name of one. -/
def Valid : Choice → Prop
  | .flag _ => True
  | .setting s value => value ≠ "" ∧ (s = .format → (Format.ofName? value).isSome = true)

/-- A setting that may have a value. -/
def ofValue (s : Setting) (value : Option String) : List Choice :=
  (value.map (.setting s)).toList

/-- A flag that is on or off. -/
def ofFlag (f : Flag) (on : Bool) : List Choice :=
  if on then [.flag f] else []

end Choice

end CommandLine

open CommandLine (Choice)

/-- The options of a project that are given. -/
def Options.globals (o : Options) : List Choice :=
  Choice.ofValue .project o.project ++ Choice.ofFlag .noColor o.noColor ++
    Choice.ofFlag .debug o.debug

/-- The options of a check that are given; its form may be named or not. -/
def CheckOptions.choices (o : CheckOptions) (named : Bool) : List Choice :=
  Choice.ofValue .file o.file ++ Choice.ofValue .policy o.policy ++
    (if named then [Choice.setting .format o.format.name] else []) ++
    Choice.ofFlag .strict o.strict

/-- A form is read back from its name. -/
theorem Format.ofName?_name (f : Format) : Format.ofName? f.name = some f := by
  cases f <;> decide

namespace CommandLine

/-! ## What arguments say together -/

/-- The value that choices give a setting. -/
def valueIn? (s : Setting) (choices : List Choice) : Option String :=
  choices.findSome? (Choice.value? s)

/-- The options of a level at which choices were given. -/
def Given.ofChoices (choices : List Choice) : Given where
  project := valueIn? .project choices
  file := valueIn? .file choices
  policy := valueIn? .policy choices
  format := (valueIn? .format choices).bind Format.ofName?
  noColor := decide (.flag .noColor ∈ choices)
  debug := decide (.flag .debug ∈ choices)
  strict := decide (.flag .strict ∈ choices)

variable {choices done rest : List Choice} {a : Choice} {s : Setting} {f : Flag} {v : String}

theorem Choice.value?_eq_some_iff : a.value? s = some v ↔ a = .setting s v := by
  cases a with
  | flag f =>
      simp [value?]
  | setting t value =>
      by_cases hts : t = s <;> simp [value?, hts]

theorem setting_mem_of_valueIn? (h : valueIn? s choices = some v) : .setting s v ∈ choices := by
  rcases List.exists_of_findSome?_eq_some h with ⟨a, ha, hvalue⟩
  rw [← Choice.value?_eq_some_iff.1 hvalue]
  exact ha

/-- A setting has the one value that is given to it, wherever it is given. -/
theorem valueIn?_eq {value : Option String}
    (h : ∀ v, .setting s v ∈ choices ↔ value = some v) : valueIn? s choices = value := by
  cases hfound : valueIn? s choices with
  | some v =>
      exact ((h v).1 (setting_mem_of_valueIn? hfound)).symm
  | none =>
      cases value with
      | none =>
          rfl
      | some v =>
          have hnone := List.findSome?_eq_none_iff.1 hfound _ ((h v).2 rfl)
          rw [Choice.value?_eq_some_iff.2 rfl] at hnone
          cases hnone

theorem valueIn?_eq_none (h : Switch.setting s ∉ choices.map Choice.switch) :
    valueIn? s choices = none := by
  refine valueIn?_eq fun v => ⟨fun hmem => ?_, nofun⟩
  exact absurd (List.mem_map_of_mem (f := Choice.switch) hmem) h

theorem valueIn?_append (s : Setting) (choices others : List Choice) :
    valueIn? s (choices ++ others) = (valueIn? s choices).or (valueIn? s others) :=
  List.findSome?_append

theorem valueIn?_singleton (s t : Setting) (v : String) :
    valueIn? s [.setting t v] = if t = s then some v else none := by
  by_cases hts : t = s <;> simp [valueIn?, Choice.value?, hts]

/-! ## Reading one argument -/

namespace Given

theorem has_ofChoices (choices : List Choice) (f : Flag) :
    (ofChoices choices).has f = decide (.flag f ∈ choices) := by
  cases f <;> rfl

theorem isSet_ofChoices (h : Switch.setting s ∉ choices.map Choice.switch) :
    (ofChoices choices).isSet s = false := by
  cases s <;> simp [isSet, ofChoices, valueIn?_eq_none h]

/-- A flag that has not been given is noted, and nothing else. -/
theorem turnOn_ofChoices (h : Switch.flag f ∉ done.map Choice.switch) :
    (ofChoices done).turnOn f = .ok (ofChoices (done ++ [.flag f])) := by
  have hnew : Choice.flag f ∉ done := fun hmem => h (List.mem_map_of_mem (f := Choice.switch) hmem)
  have hvalue : ∀ s, valueIn? s [.flag f] = .none := fun s => rfl
  unfold turnOn
  rw [has_ofChoices, decide_eq_false hnew]
  cases f <;> simp [ofChoices, valueIn?_append, hvalue]

/-- A setting that has not been given is noted with its value, and nothing else. -/
theorem set_ofChoices (h : Switch.setting s ∉ done.map Choice.switch)
    (hvalid : (Choice.setting s v).Valid) :
    (ofChoices done).set s v = .ok (ofChoices (done ++ [.setting s v])) := by
  have hnone := valueIn?_eq_none h
  have hempty : (v == "") = false := by
    simpa using hvalid.1
  unfold set
  rw [isSet_ofChoices h, hempty]
  cases s with
  | format =>
      rcases Option.isSome_iff_exists.1 (hvalid.2 rfl) with ⟨f, hf⟩
      simp [ofChoices, valueIn?_append, valueIn?_singleton, hnone, hf]
  | _ =>
      simp [ofChoices, valueIn?_append, valueIn?_singleton, hnone]

end Given

theorem Level.ofName?_name {level : Level} {s : Switch} (h : s ∈ level.switches) :
    level.ofName? s.name = some s := by
  have hall : ∀ level : Level, ∀ s ∈ level.switches, level.ofName? s.name = some s := by
    rintro (_ | _ | _) <;> decide
  exact hall level s h

/-- An argument begins with two hyphens and the name of its option, which ends at the end of the
argument or in front of an equals sign and the value. -/
theorem Choice.toList_argument (a : Choice) :
    a.argument.toList = '-' :: '-' :: (a.switch.name.toList ++
      match a with
      | .flag _ => []
      | .setting _ value => '=' :: value.toList) := by
  cases a <;> simp [argument, switch]

theorem Switch.equals_not_mem_name (s : Switch) : '=' ∉ s.name.toList := by
  rcases s with f | s | _ | _
  · cases f <;> decide
  · cases s <;> decide
  · decide
  · decide

/-- The choices of a level, each of which is given once and can be taken. -/
structure Readable (level : Level) (choices : List Choice) : Prop where
  once : (choices.map Choice.switch).Nodup
  known : ∀ a ∈ choices, a.switch ∈ level.switches
  valid : ∀ a ∈ choices, a.Valid

theorem Readable.not_mem {level : Level} (h : Readable level (done ++ a :: rest)) :
    a.switch ∉ done.map Choice.switch := by
  have honce := h.once
  rw [List.map_append, List.map_cons, List.nodup_middle, List.nodup_cons, List.mem_append,
    not_or] at honce
  exact honce.1.1

namespace Progress

variable {level : Level}

/-- Reading an argument notes its option. -/
theorem read_argument (hnew : a.switch ∉ done.map Choice.switch)
    (hknown : a.switch ∈ level.switches) (hvalid : a.Valid) :
    Progress.read ⟨.ofChoices done, none⟩ level a.argument =
      .ok ⟨.ofChoices (done ++ [a]), none⟩ := by
  have hname : ∀ c ∈ a.switch.name.toList, (c != '=') = true := by
    intro c hc
    rw [bne_iff_ne]
    rintro rfl
    exact a.switch.equals_not_mem_name hc
  have hof := Level.ofName?_name hknown
  -- what stands in front of the first equals sign is the name, for a name holds none
  unfold read
  rw [Choice.toList_argument]
  cases a with
  | flag f =>
      have hon := Given.turnOn_ofChoices hnew
      simp only [Choice.switch] at hname hof
      simp only [Choice.switch, List.append_nil, List.takeWhile_eq_self_iff.2 hname,
        List.dropWhile_eq_nil_iff.2 hname, String.ofList_toList, readNamed, hof, name, settle]
      show (do return ⟨← (Given.ofChoices done).turnOn f, none⟩ : Except Stop Progress) = _
      rw [hon]
      rfl
  | setting s value =>
      have hset := Given.set_ofChoices hnew hvalid
      simp only [Choice.switch] at hname hof
      simp only [Choice.switch, List.takeWhile_append_of_pos hname,
        List.dropWhile_append_of_pos hname, List.takeWhile_cons, List.dropWhile_cons,
        bne_self_eq_false, Bool.false_eq_true, if_false, List.append_nil, String.ofList_toList,
        readNamed, hof, assign]
      show (do return ⟨← (Given.ofChoices done).set s value, none⟩ : Except Stop Progress) = _
      rw [hset]
      rfl

theorem read_argument_of_readable (h : Readable level (done ++ a :: rest)) :
    Progress.read ⟨.ofChoices done, none⟩ level a.argument =
      .ok ⟨.ofChoices (done ++ [a]), none⟩ := by
  have hmem : a ∈ done ++ a :: rest := by
    simp
  exact read_argument h.not_mem (h.known a hmem) (h.valid a hmem)

/-! ## Reading all arguments of a level -/

theorem argument_ne_separator (a : Choice) : (a.argument == separator) = false := by
  rw [beq_eq_false_iff_ne, ne_eq, ← String.toList_inj, Choice.toList_argument]
  cases a with
  | flag f =>
      cases f <;> decide
  | setting s value =>
      cases s <;> simp [separator, Choice.switch, Switch.name]

/-- From any choices on, a level comes to these and the ones that are read. -/
theorem readAll_arguments (h : Readable level (done ++ rest)) :
    Progress.readAll ⟨.ofChoices done, none⟩ level (rest.map Choice.argument) =
      .ok (.ofChoices (done ++ rest)) := by
  -- on the choices still to be read; what is read joins the ones that are done
  induction rest generalizing done with
  | nil =>
      rw [List.append_nil]
      rfl
  | cons a rest ih =>
      have hread := read_argument_of_readable h
      rw [List.append_cons] at h ⊢
      rw [List.map_cons]
      unfold readAll
      rw [argument_ne_separator, if_neg Bool.false_ne_true, hread]
      exact ih h

end Progress

/-! ## Whole command lines -/

theorem argument_ne_name (a : Choice) :
    levelOfName? a.argument = none ∧ (a.argument == helpName) = false := by
  have hne : ∀ name : String, name.toList.head? ≠ some '-' → a.argument ≠ name := by
    rintro name hname rfl
    rw [Choice.toList_argument] at hname
    exact hname rfl
  have hcheck : ("check" == a.argument) = false := by
    rw [beq_eq_false_iff_ne]
    exact (hne "check" (by decide)).symm
  have hrules : ("rules" == a.argument) = false := by
    rw [beq_eq_false_iff_ne]
    exact (hne "rules" (by decide)).symm
  refine ⟨?_, beq_eq_false_iff_ne.2 (hne helpName (by decide))⟩
  simp [levelOfName?, Level.name?, hcheck, hrules]

/-- An argument is no name of a command, so it is read where it stands. -/
theorem parseFrom_argument {g : Given} {p : Progress} (others : List String)
    (h : Progress.read ⟨g, none⟩ .top a.argument = .ok p) :
    parseFrom ⟨g, none⟩ (a.argument :: others) = parseFrom p others := by
  have hwants : (Progress.mk g none).wantsValue = false := rfl
  rw [parseFrom.eq_def]
  simp only [hwants, Bool.false_eq_true, if_false, (argument_ne_name a).1, (argument_ne_name a).2,
    Bool.not_false, Bool.true_and, Progress.argument_ne_separator, h]
  rfl

/-- In front of the name of a command, too, arguments are noted one after the other. -/
theorem parseFrom_arguments (h : Readable .top (done ++ rest)) (others : List String) :
    parseFrom ⟨.ofChoices done, none⟩ (rest.map Choice.argument ++ others) =
      parseFrom ⟨.ofChoices (done ++ rest), none⟩ others := by
  induction rest generalizing done with
  | nil =>
      rw [List.append_nil]
      rfl
  | cons a rest ih =>
      have hread := Progress.read_argument_of_readable h
      rw [List.append_cons] at h ⊢
      rw [List.map_cons, List.cons_append, parseFrom_argument _ hread]
      exact ih h

/-- Arguments around the name of a check. -/
theorem parse_around_check {before after : List Choice} (hbefore : Readable .top before)
    (hafter : Readable .check after) :
    parse (before.map Choice.argument ++ "check" :: after.map Choice.argument) =
      .ok (combine (.ofChoices before) (.ofChoices after) .check) := by
  have hread : Progress.readAll ⟨.ofChoices [], none⟩ .check (after.map Choice.argument) =
      .ok (.ofChoices after) :=
    Progress.readAll_arguments hafter
  have hfrom : parseFrom ⟨.ofChoices [], none⟩
      (before.map Choice.argument ++ "check" :: after.map Choice.argument) =
      parseFrom ⟨.ofChoices before, none⟩ ("check" :: after.map Choice.argument) :=
    @parseFrom_arguments [] before hbefore _
  have hcheck : parseFrom ⟨.ofChoices before, none⟩ ("check" :: after.map Choice.argument) =
      (do
        let after ← Progress.start.readAll .check (after.map Choice.argument)
        return combine (← Progress.settle ⟨.ofChoices before, none⟩) after .check) := rfl
  have hstart : Progress.start = ⟨.ofChoices [], none⟩ := rfl
  rw [hstart, hread] at hcheck
  exact hfrom.trans hcheck

/-- Arguments without the name of a command. -/
theorem parse_alone (h : Readable .top choices) :
    parse (choices.map Choice.argument) = .ok (combine (.ofChoices choices) .none .top) := by
  have hfrom : parseFrom ⟨.ofChoices [], none⟩ (choices.map Choice.argument ++ []) =
      parseFrom ⟨.ofChoices choices, none⟩ [] :=
    @parseFrom_arguments [] choices h []
  rw [List.append_nil] at hfrom
  exact hfrom

/-! ## What is written out is read back -/

/-- Choices stand around the name of a command, in any order: each on one side of it, and in front
of it only those that are known there. -/
structure Around (choices before after : List Choice) : Prop where
  all : (before ++ after).Perm choices
  front : ∀ a ∈ before, a.isGlobal = true

/-- A choice is one of those that the options give. -/
def Gives (o : Options) (c : CheckOptions) (named : Bool) : Choice → Prop
  | .setting .project v => o.project = some v
  | .setting .file v => c.file = some v
  | .setting .policy v => c.policy = some v
  | .setting .format v => named = true ∧ v = c.format.name
  | .flag .noColor => o.noColor = true
  | .flag .debug => o.debug = true
  | .flag .strict => c.strict = true

variable {o : Options} {c : CheckOptions} {named : Bool} {before after : List Choice}

namespace Choice

theorem mem_ofValue_iff {value : Option String} :
    a ∈ ofValue s value ↔ ∃ v, value = some v ∧ a = .setting s v := by
  cases value <;> simp [ofValue]

theorem mem_ofFlag_iff {on : Bool} : a ∈ ofFlag f on ↔ on = true ∧ a = .flag f := by
  cases on <;> simp [ofFlag]

theorem switch_ofValue_sublist (s : Setting) (value : Option String) :
    ((ofValue s value).map switch).Sublist [.setting s] := by
  cases value <;> simp [ofValue, switch]

theorem switch_ofFlag_sublist (f : Flag) (on : Bool) :
    ((ofFlag f on).map switch).Sublist [.flag f] := by
  cases on <;> simp [ofFlag, switch]

end Choice

theorem mem_choices_iff : a ∈ o.globals ++ c.choices named ↔ Gives o c named a := by
  have hformat : ∀ {a : Choice},
      (a ∈ if named then [Choice.setting .format c.format.name] else []) ↔
        named = true ∧ a = .setting .format c.format.name := by
    cases named <;> simp
  simp only [Options.globals, CheckOptions.choices, List.mem_append, Choice.mem_ofValue_iff,
    Choice.mem_ofFlag_iff, hformat]
  rcases a with (_ | _ | _) | ⟨_ | _ | _ | _, v⟩ <;> simp [Gives]

/-- No option is given twice. -/
theorem nodup_choices (o : Options) (c : CheckOptions) (named : Bool) :
    ((o.globals ++ c.choices named).map Choice.switch).Nodup := by
  have hformat : ((if named then [Choice.setting .format c.format.name] else []).map
      Choice.switch).Sublist [.setting .format] := by
    cases named <;> simp [Choice.switch]
  have hglobals := ((Choice.switch_ofValue_sublist .project o.project).append
    (Choice.switch_ofFlag_sublist .noColor o.noColor)).append
    (Choice.switch_ofFlag_sublist .debug o.debug)
  have hcheck := (((Choice.switch_ofValue_sublist .file c.file).append
    (Choice.switch_ofValue_sublist .policy c.policy)).append hformat).append
    (Choice.switch_ofFlag_sublist .strict c.strict)
  -- each option has its own place, so the switches are among all of them, in one order
  have hall := hglobals.append hcheck
  simp only [← List.map_append] at hall
  exact hall.nodup (by decide)

/-- No text that the options give is empty. -/
structure NoneEmpty (o : Options) (c : CheckOptions) : Prop where
  project : o.project ≠ some ""
  file : c.file ≠ some ""
  policy : c.policy ≠ some ""

theorem Gives.valid (h : Gives o c named a) (htexts : NoneEmpty o c) : a.Valid := by
  have hne : ∀ {value : Option String} {v : String}, value ≠ some "" → value = some v → v ≠ "" := by
    rintro _ v hvalue rfl rfl
    exact hvalue rfl
  rcases a with f | ⟨_ | _ | _ | _, v⟩
  · trivial
  · exact ⟨hne htexts.project h, nofun⟩
  · exact ⟨hne htexts.file h, nofun⟩
  · exact ⟨hne htexts.policy h, nofun⟩
  · rcases h with ⟨_, rfl⟩
    refine ⟨?_, fun _ => by rw [Format.ofName?_name]; rfl⟩
    cases c.format <;> decide

namespace Around

variable (h : Around (o.globals ++ c.choices named) before after)
include h

theorem mem_iff : a ∈ before ++ after ↔ Gives o c named a :=
  h.all.mem_iff.trans mem_choices_iff

theorem nodup : ((before ++ after).map Choice.switch).Nodup :=
  (h.all.map Choice.switch).nodup_iff.2 (nodup_choices o c named)

theorem readable_before (htexts : NoneEmpty o c) : Readable .top before where
  once := by
    have honce := h.nodup
    rw [List.map_append] at honce
    exact honce.of_append_left
  known := by
    intro a ha
    exact List.contains_iff_mem.1 (h.front a ha)
  valid := by
    intro a ha
    exact (h.mem_iff.1 (List.mem_append_left after ha)).valid htexts

theorem readable_after (htexts : NoneEmpty o c) : Readable .check after where
  once := by
    have honce := h.nodup
    rw [List.map_append] at honce
    exact honce.of_append_right
  known := by
    have hall : ∀ s : Switch, s ∈ Level.check.switches := by
      rintro ((_ | _ | _) | (_ | _ | _ | _) | _ | _) <;> decide
    exact fun a _ => hall a.switch
  valid := by
    intro a ha
    exact (h.mem_iff.1 (List.mem_append_right before ha)).valid htexts

/-- What is known only to a check stands behind its name. -/
theorem mem_after_iff (ha : a.isGlobal = false) : a ∈ after ↔ Gives o c named a := by
  rw [← h.mem_iff, List.mem_append]
  constructor
  · exact .inr
  · rintro (hbefore | hafter)
    · have hglobal := h.front a hbefore
      rw [ha] at hglobal
      cases hglobal
    · exact hafter

/-- Both sides together say what the options of the project are. -/
theorem combine_eq (level : Level) :
    combine (.ofChoices before) (.ofChoices after) level =
      { o with command := (Given.ofChoices after).command? level } := by
  have hproject : (valueIn? .project after <|> valueIn? .project before) = o.project := by
    rw [Option.orElse_eq_orElse, Option.orElse_eq_or, ← valueIn?_append]
    refine valueIn?_eq fun v => ?_
    rw [List.mem_append, or_comm, ← List.mem_append]
    exact h.mem_iff
  have hflag : ∀ {f : Flag} {on : Bool}, (Gives o c named (.flag f) ↔ on = true) →
      (decide (Choice.flag f ∈ before) || decide (Choice.flag f ∈ after)) = on := by
    intro f on hon
    rw [Bool.eq_iff_iff, Bool.or_eq_true, decide_eq_true_eq, decide_eq_true_eq, ← List.mem_append,
      h.mem_iff, hon]
  have hnoColor := hflag (f := .noColor) Iff.rfl
  have hdebug := hflag (f := .debug) Iff.rfl
  simp only [combine, Given.ofChoices, hproject, hnoColor, hdebug]

/-- What stands behind the name says what the options of the check are. -/
theorem checkOptions_eq (hnamed : named = true ∨ c.format = .human) :
    (Given.ofChoices after).checkOptions = c := by
  have hfile : valueIn? .file after = c.file := valueIn?_eq fun v => h.mem_after_iff rfl
  have hpolicy : valueIn? .policy after = c.policy := valueIn?_eq fun v => h.mem_after_iff rfl
  have hformat : valueIn? .format after = if named then some c.format.name else none := by
    refine valueIn?_eq fun v => (h.mem_after_iff rfl).trans ?_
    cases named <;> simp [Gives, eq_comm]
  have hform : ((valueIn? .format after).bind Format.ofName?).getD .human = c.format := by
    rw [hformat]
    cases named with
    | true =>
        simp [Format.ofName?_name]
    | false =>
        exact (hnamed.resolve_left Bool.false_ne_true).symm
  have hstrict : decide (Choice.flag .strict ∈ after) = c.strict := by
    rw [Bool.eq_iff_iff, decide_eq_true_eq, h.mem_after_iff rfl]
    exact Iff.rfl
  simp only [Given.checkOptions, Given.ofChoices, hfile, hpolicy, hform, hstrict]

/-- Options that are written out around the name of a check are read back. -/
theorem parse_eq (htexts : NoneEmpty o c) (hnamed : named = true ∨ c.format = .human) :
    parse (before.map Choice.argument ++ "check" :: after.map Choice.argument) =
      .ok { o with command := some (.check c) } := by
  rw [parse_around_check (h.readable_before htexts) (h.readable_after htexts), h.combine_eq,
    Given.command?, h.checkOptions_eq hnamed]

end Around

theorem isGlobal_of_mem_globals (h : a ∈ o.globals) : a.isGlobal = true := by
  simp only [Options.globals, List.mem_append, Choice.mem_ofValue_iff, Choice.mem_ofFlag_iff] at h
  rcases h with ((⟨_, _, rfl⟩ | ⟨_, rfl⟩) | ⟨_, rfl⟩) <;> rfl

/-- Options of a project that are written out alone are read back. -/
theorem parse_globals (hperm : choices.Perm o.globals) (hproject : o.project ≠ some "") :
    parse (choices.map Choice.argument) = .ok { o with command := none } := by
  -- no option of a check is given, so all of them can stand in front of a name that is left out
  have haround : Around (o.globals ++ CheckOptions.standard.choices false) choices [] := by
    refine ⟨?_, fun a ha => isGlobal_of_mem_globals (hperm.subset ha)⟩
    rw [List.append_nil]
    exact hperm.trans (.of_eq (List.append_nil _).symm)
  rw [parse_alone (haround.readable_before ⟨hproject, nofun, nofun⟩)]
  exact congrArg Except.ok (haround.combine_eq .top)

/-! ## Without the name of a check -/

/-- What a command line comes to over fixed contents of the files: what is written where there is
room, and whether the run passes or why it fails. -/
def dispatch (read : String → Contents) (palette : Palette) (root : String) (room : Room)
    (arguments : List String) : Except Stop (List UInt8 × Except Failure Bool) := do
  let o ← parse arguments
  return Run.deliver room (Command.onFiles read palette (o.project.getD root) o.command)

end CommandLine

/-- The program over fixed contents of the files. -/
def Program.onFiles (read : String → Contents) (s : Surroundings) (arguments : List String) :
    Ending :=
  (Program.run (m := Id) (fun location => pure (read location)) s arguments).run

/-- The options have no part in what is written to the output after a run, nor in the status. -/
theorem Program.ofRun_eq (filter : Log.Filter) (o o' : Options) (r : Run) :
    (ofRun filter o r).output = (ofRun filter o' r).output ∧
      (ofRun filter o r).status = (ofRun filter o' r).status := by
  unfold ofRun
  cases r.outcome <;> exact ⟨rfl, rfl⟩

namespace CommandLine

variable {o : Options} {c : CheckOptions}

/-- Command lines that are read as the same options, but for the command, which the one leaves out
and the other gives without options of its own, come to the same. -/
theorem runAlike_of_parse {arguments others : List String}
    (h : parse arguments = .ok { o with command := none })
    (h' : parse others = .ok { o with command := some (.check .standard) }) :
    (∀ read palette root room,
      dispatch read palette root room arguments = dispatch read palette root room others) ∧
    ∀ read s, (Program.onFiles read s arguments).output = (Program.onFiles read s others).output ∧
      (Program.onFiles read s arguments).status = (Program.onFiles read s others).status := by
  refine ⟨?_, ?_⟩
  · intro read palette root room
    rw [dispatch, dispatch, h, h']
    rfl
  · intro read s
    rw [Program.onFiles, Program.onFiles, Program.run, Program.run, h, h']
    exact Program.ofRun_eq (.choose o.debug (s.value? "RUST_LOG")) { o with command := none }
      { o with command := some (.check .standard) }
      (Command.onFiles read (.choose (!o.noColor) s.showsStyles) (o.project.getD s.here) none)

/-- Say that no text among the options is empty. The options of a check and of its project, each
written out once, the form of the report named or left out for the one for readers, are read back as
they are, in every order in which those of the check stand behind its name. Without the name, those
of the project are read back in every order, too, with no command; and then the run writes the same
and ends alike as with the name and no options of the check. -/
theorem parse_written (htexts : NoneEmpty o c) :
    (∀ named before after, named = true ∨ c.format = .human →
      Around (o.globals ++ c.choices named) before after →
        parse (before.map Choice.argument ++ "check" :: after.map Choice.argument) =
          .ok { o with command := some (.check c) }) ∧
    ∀ alone before after : List Choice, alone.Perm o.globals → Around o.globals before after →
      let arguments := alone.map Choice.argument
      let others := before.map Choice.argument ++ "check" :: after.map Choice.argument
      parse arguments = .ok { o with command := none } ∧
        (∀ read palette root room,
          dispatch read palette root room arguments = dispatch read palette root room others) ∧
        ∀ read s,
          (Program.onFiles read s arguments).output = (Program.onFiles read s others).output ∧
            (Program.onFiles read s arguments).status = (Program.onFiles read s others).status := by
  refine ⟨fun named before after hnamed haround => haround.parse_eq htexts hnamed, ?_⟩
  intro alone before after hperm haround
  have hglobals := parse_globals hperm htexts.project
  have hstandard : Around (o.globals ++ CheckOptions.standard.choices false) before after :=
    ⟨haround.all.trans (.of_eq (List.append_nil _).symm), haround.front⟩
  have hcheck := hstandard.parse_eq ⟨htexts.project, nofun, nofun⟩ (.inr rfl)
  exact ⟨hglobals, runAlike_of_parse hglobals hcheck⟩

/-! ### Values that look like other arguments -/

/-- Values that look like a command and like options, and hold equals signs. -/
theorem parse_written_lookalikes :
    NoneEmpty ⟨some "check", true, false, none⟩ ⟨some "--strict", some "a=b", .json, true⟩ ∧
      parse ["--no-color", "check", "--strict", "--policy=a=b", "--format=json", "--project=check",
          "--file=--strict"] =
        .ok ⟨some "check", true, false,
          some (.check ⟨some "--strict", some "a=b", .json, true⟩)⟩ := by
  have htexts : NoneEmpty ⟨some "check", true, false, none⟩
      ⟨some "--strict", some "a=b", .json, true⟩ :=
    ⟨by decide, by decide, by decide⟩
  have haround : Around
      (Options.globals ⟨some "check", true, false, none⟩ ++
        CheckOptions.choices ⟨some "--strict", some "a=b", .json, true⟩ true)
      [.flag .noColor]
      [.flag .strict, .setting .policy "a=b", .setting .format "json", .setting .project "check",
        .setting .file "--strict"] :=
    ⟨by decide, by decide⟩
  exact ⟨htexts, (parse_written htexts).1 true _ _ (.inl rfl) haround⟩

end CommandLine

end WorkflowLint
