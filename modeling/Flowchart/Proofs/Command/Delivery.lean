import Flowchart.Command.Request
import Flowchart.Conversion
import Flowchart.Proofs.Command.Echo
import Flowchart.Proofs.Outcome

/-!
# What a command delivers

The commands that parse and convert make of a text what the library functions make of it.  They
bring it out as a whole, to the output or to a file, or leave everything as it was.
-/

namespace Flowchart.Command

/-- Options by their long names, each with its value behind it if it takes one. -/
def spelled (options : List (OptionRule × Text)) : List Text :=
  options.flatMap fun o => if o.1.takesValue then [o.1.long, o.2] else [o.1.long]

structure OptionRule.Named (rules : List OptionRule) (rule : OptionRule) : Prop where
  option : isOption rule.long = true
  more : rule.long ≠ endOfOptions
  found : spell rules rule.long = .ok ⟨rule, rule.long, none⟩

instance (rules : List OptionRule) (rule : OptionRule) : Decidable (rule.Named rules) :=
  decidable_of_iff (isOption rule.long = true ∧ rule.long ≠ endOfOptions ∧
      spell rules rule.long = .ok ⟨rule, rule.long, none⟩)
    ⟨fun ⟨hoption, hmore, hfound⟩ => ⟨hoption, hmore, hfound⟩,
      fun h => ⟨h.option, h.more, h.found⟩⟩

theorem Action.named_of_mem (action : Action) : ∀ rule ∈ action.rules, rule.Named action.rules := by
  cases action <;> decide

section Split

variable {rules : List OptionRule} {options : List (OptionRule × Text)}

theorem split_spelled (hnamed : ∀ o ∈ options, o.1.Named rules)
    (hflags : ∀ o ∈ options, o.1.takesValue = false → o.2 = []) (mixed : Bool) :
    split rules mixed (spelled options) = .ok { options := options } := by
  induction options with
  | nil => rfl
  | cons o options ih =>
      obtain ⟨rule, value⟩ := o
      obtain ⟨hrule, hrest⟩ := List.forall_mem_cons.1 hnamed
      obtain ⟨hflag, hflags⟩ := List.forall_mem_cons.1 hflags
      have hsplit := ih hrest hflags
      rw [spelled, List.flatMap_cons]
      change split rules mixed (_ ++ spelled options) = _
      cases hvalue : rule.takesValue with
      | true =>
          simp only [if_true, List.cons_append, List.nil_append]
          rw [split, if_neg hrule.more, if_pos hrule.option, hrule.found]
          simp only [hvalue, Bool.not_true, Bool.false_eq_true, if_false, hsplit]
          rfl
      | false =>
          obtain rfl : value = [] := hflag hvalue
          simp only [Bool.false_eq_true, if_false, List.cons_append, List.nil_append]
          rw [split, if_neg hrule.more, if_pos hrule.option, hrule.found]
          simp only [hvalue, Bool.not_false, if_true, hsplit]
          rfl

end Split

theorem Arguments.exists_of_value? {given : Arguments} {name : OptionName} {value : Text}
    (h : given.value? name = some value) : ∃ o ∈ given.options, o.1.name = name ∧ o.2 = value := by
  obtain ⟨o, hfound, rfl⟩ := Option.map_eq_some_iff.1 h
  exact ⟨o, List.mem_reverse.1 (List.mem_of_find?_eq_some hfound),
    by simpa using List.find?_some hfound, rfl⟩

theorem formatFault?_eq_none {known : List Text} {given : Arguments}
    (h : ∀ o ∈ given.options, o.1.takesFormat = true → o.2 ∈ known) :
    formatFault? known given = none := by
  rw [formatFault?, List.findSome?_eq_none_iff]
  rintro ⟨rule, _⟩ -
  cases hvalue : given.value? rule.name with
  | none => simp [hvalue]
  | some value =>
      obtain ⟨o, ho, hname, rfl⟩ := given.exists_of_value? hvalue
      have hformat : rule.takesFormat = true → o.2 ∈ known := by
        intro htakes
        refine h o ho ?_
        rwa [OptionRule.takesFormat, hname]
      simp only [hvalue]
      rw [if_neg]
      simpa using hformat

/-- The options of an action, plainly spelled behind its name, ask for its job. -/
theorem read_spelled {action : Action} {options : List (OptionRule × Text)} {job : Job}
    (hrules : ∀ o ∈ options, o.1 ∈ action.rules ∧ o.1.name ≠ .help)
    (hflags : ∀ o ∈ options, o.1.takesValue = false → o.2 = [])
    (hformats : ∀ o ∈ options, o.1.takesFormat = true → o.2 ∈ Format.builtin.map (·.id))
    (hjob : action.job { options := options } = .ok job) :
    Request.read (action.name :: spelled options) = .ok { job := .ok job } := by
  have hsplit : split action.rules true (spelled options) = .ok { options := options } :=
    split_spelled (fun o ho => action.named_of_mem _ (hrules o ho).1) hflags true
  have hgeneral : split OptionRule.general false (action.name :: spelled options) =
      .ok { positional := action.name :: spelled options } := by
    cases action <;> rfl
  have hname : Action.ofName? action.name = some action := by
    cases action <;> decide
  have hhelp : (⟨options, []⟩ : Arguments).has .help = false := by
    rw [Arguments.has, Option.isSome_eq_false_iff, Option.isNone_iff_eq_none,
      Option.eq_none_iff_forall_not_mem]
    intro value hvalue
    obtain ⟨o, ho, hname, -⟩ := Arguments.exists_of_value? hvalue
    exact (hrules o ho).2 hname
  have hrequest : Request.ofArguments .warning action { options := options } =
      .ok { job := .ok job } := by
    rw [Request.ofArguments, formatFault?_eq_none hformats]
    simp [hjob, bind, Except.bind]
  rw [Request.read, hgeneral]
  simp only [hname, hsplit, hhelp, bind, Except.bind, Bool.false_eq_true, if_false]
  -- Nothing stands before the name of the action, so there are no general options to look at.
  exact hrequest

namespace Folder

variable {folder : Folder} {place other : Place} {s : Text}

theorem lookup_filter_ne (items : List (Place × Item)) (h : other ≠ place) :
    (items.filter (·.1 != place)).lookup other = items.lookup other := by
  induction items with
  | nil => rfl
  | cons item items ih =>
      by_cases hitem : item.1 = place
      · have hother : (other == item.1) = false := beq_eq_false_iff_ne.2 (hitem ▸ h)
        rw [List.filter_cons_of_neg (by simp [hitem]), ih, List.lookup_cons, hother]
      · rw [List.filter_cons_of_pos (by simpa using hitem), List.lookup_cons, List.lookup_cons, ih]

theorem item?_put_of_ne (h : other ≠ place) :
    (folder.put place s).item? other = folder.item? other := by
  have hother : (other == place) = false := beq_eq_false_iff_ne.2 h
  rw [item?, item?, put, List.lookup_cons, hother, lookup_filter_ne folder.items h]

theorem follow_put (hplace : folder.item? place ≠ some .folder) {path : Text}
    (h : folder.follow path = .ok other) : (folder.put place s).follow path = .ok other := by
  -- A path goes through folders, so it leads on where a file was put in the place of none.
  have henter : ∀ {at_ next : Place} {name : Text}, folder.enter at_ name = .ok next →
      (folder.put place s).enter at_ name = .ok next := by
    intro at_ next name hnext
    have hne : at_ ≠ place := by
      rintro rfl
      rw [enter] at hnext
      split at hnext
      · cases hnext
      · cases hnext
      · exact hplace ‹_›
    rwa [enter, item?_put_of_ne hne]
  rw [follow] at h ⊢
  split at h
  · cases h
  · rename_i hrelative
    rw [if_neg hrelative]
    generalize (Text.split '/' path).filter (fun name => !name.isEmpty) = names at h ⊢
    generalize ([] : Place) = start at h ⊢
    induction names generalizing start with
    | nil => exact h
    | cons name names ih =>
        rw [List.foldlM_cons] at h ⊢
        obtain ⟨next, hnext, hrest⟩ := Except.exists_of_bind_eq_ok h
        rw [henter hnext]
        exact ih next hrest

theorem followed_of_target {path : Text} (h : folder.target path = .ok place) :
    folder.follow path = .ok place ∧ folder.item? place ≠ some .folder ∧
      namesFolder path = false := by
  obtain ⟨found, hfollow, h⟩ := Except.exists_of_bind_eq_ok h
  cases hnames : namesFolder path with
  | true =>
      simp only [hnames, if_true] at h
      split at h <;> cases h
  | false =>
      simp only [hnames, Bool.false_eq_true, if_false] at h
      split at h
      · cases h
      · obtain rfl := Except.ok.inj h
        exact ⟨hfollow, by simp [*], rfl⟩
      · obtain rfl := Except.ok.inj h
        exact ⟨hfollow, by simp [*], rfl⟩

theorem find_put {path : Text} (h : folder.target path = .ok place) (s : Text) :
    (folder.put place s).find path = .ok (.file s) := by
  obtain ⟨hfollow, hitem, hnames⟩ := followed_of_target h
  have hplace : place.isEmpty = false := by
    cases place with
    | nil => exact absurd rfl hitem
    | cons name rest => rfl
  rw [find, follow_put hitem hfollow]
  simp only [bind, Except.bind, item?_put folder hplace s, hnames, Bool.false_eq_true, if_false]

end Folder

def fileOf (output : Option Text) : Option Text := output.filter (!·.isEmpty)

/-- Where the result of a job goes, and what the library functions make of a text for it. -/
def Job.task? (text : Text) : Job → Option (Option Text × Except ConversionFault Text)
  | parse source sortKeys output =>
    some (output, (parseFlow source text).map (Record.write ⟨some (Text.spaces 2), sortKeys⟩))
  | convert source target direction output =>
    some (output, Flowchart.convert source target (directed direction) text)
  | _ => none

def Outcome.stdout (outcome : Outcome) : Text := outcome.printed.flatMap (· ++ ['\n'])

structure Outcome.Failed (outcome : Outcome) : Prop where
  status : outcome.status ≠ 0
  silent : outcome.printed = []
  fileless : outcome.file = none

/-- An outcome that brings out a result, or fails where there is none. -/
inductive Outcome.Ends (output : Option Text) : Except ConversionFault Text → Outcome → Prop
  | result (reported : List Text) (s : Text) : Ends output (.ok s) (.result reported output s)
  | failed {fault : ConversionFault} {outcome : Outcome} (h : outcome.Failed) :
      Ends output (.error fault) outcome

theorem failure_failed (reported : List Text) : (Outcome.failure reported).Failed :=
  ⟨Nat.one_ne_zero, rfl, rfl⟩

theorem withFlow_ends {output : Option Text} {next : List Text → Flow → Outcome}
    {make : Flow → Except ConversionFault Text}
    (h : ∀ log flow, Outcome.Ends output (make flow) (next log flow)) (log : List Text)
    (source : Option Text) (text : Text) :
    Outcome.Ends output (parseFlow source text >>= make) (withFlow log source text next) := by
  unfold withFlow parseFlow catalog
  cases (Catalog.standard defaultSettings).parseIn source text with
  | error misfit => exact .failed ⟨Nat.one_ne_zero, rfl, rfl⟩
  | ok reading =>
      cases reading with
      | failed format message => exact .failed (failure_failed _)
      | done format flow warnings => exact h _ flow

theorem writeOutcome_ends (level : Level) (target : Text) (options : Options)
    (output : Option Text) (log : List Text) (flow : Flow) :
    Outcome.Ends output ((catalog.write target options flow).mapError .unwritten)
      (writeOutcome level target options output log flow) := by
  unfold writeOutcome
  cases catalog.write target options flow with
  | error fault => exact .failed (failure_failed _)
  | ok s => exact .result _ s

/-- A job brings out what the library functions make of its text, or fails where they do. -/
theorem Job.run_ends {job : Job} {text : Text} {output : Option Text}
    {result : Except ConversionFault Text} (h : job.task? text = some (output, result))
    (level : Level) : Outcome.Ends output result (job.run level text) := by
  cases job with
  | help | detect | validate | formats => cases h
  | parse source sortKeys output =>
      obtain ⟨rfl, rfl⟩ := Prod.mk.inj (Option.some.inj h)
      have hmap : ∀ {e : Except ConversionFault Flow} {f : Flow → Text},
          e.map f = e >>= fun flow => .ok (f flow) := by
        rintro (_ | _) _ <;> rfl
      rw [hmap]
      exact withFlow_ends (fun log flow => .result log _) _ source text
  | convert source target direction output =>
      obtain ⟨rfl, rfl⟩ := Prod.mk.inj (Option.some.inj h)
      exact withFlow_ends (writeOutcome_ends level target (directed direction) output) _ source text

/-- What a command is to do for a result: it is brought out, to the output or to a file, or nothing
is. -/
structure Delivers (folder : Folder) (output : Option Text)
    (result : Except ConversionFault Text) (ran : Outcome × Folder) : Prop where
  succeeds : ran.1.status = 0 ↔ (∃ s, result = .ok s) ∧
    ∀ path ∈ fileOf output, ∃ place, folder.target path = .ok place
  prints : ∀ s, result = .ok s → fileOf output = none →
    ran.1.stdout = echoed s ++ ['\n'] ∧ ran.2 = folder
  /-- Only its style sequences are missing from a result that is printed. -/
  faithful : ∀ s, result = .ok s → fileOf output = none →
    (ran.1.stdout = s ++ ['\n'] ↔ Unstyled s)
  writes : ∀ s path place, result = .ok s → fileOf output = some path →
    folder.target path = .ok place →
    ran.1.stdout = [] ∧ ran.2 = folder.put place s ∧ ran.2.find path = .ok (.file s)
  fails : ran.1.status ≠ 0 → ran.1.stdout = [] ∧ ran.2 = folder

theorem stdout_of_silent {outcome : Outcome} (h : outcome.printed = []) : outcome.stdout = [] := by
  rw [Outcome.stdout, h]
  rfl

theorem delivers_of_failed {folder : Folder} {output : Option Text}
    {result : Except ConversionFault Text} {outcome : Outcome} (h : outcome.Failed)
    (hresult : ¬ ((∃ s, result = .ok s) ∧
      ∀ path ∈ fileOf output, ∃ place, folder.target path = .ok place)) :
    Delivers folder output result (outcome, folder) where
  succeeds := ⟨fun hstatus => absurd hstatus h.status, fun hdone => absurd hdone hresult⟩
  prints s hs hfile := absurd ⟨⟨s, hs⟩, by simp [hfile]⟩ hresult
  faithful s hs hfile := absurd ⟨⟨s, hs⟩, by simp [hfile]⟩ hresult
  writes s path place hs hfile htarget := absurd ⟨⟨s, hs⟩, by simp [hfile, htarget]⟩ hresult
  fails _ := ⟨stdout_of_silent h.silent, rfl⟩

theorem delivers_of_printed {folder : Folder} {output : Option Text} (hfile : fileOf output = none)
    (reported : List Text) (s : Text) :
    Delivers folder output (.ok s)
      ({ reported := reported, printed := [echoed s] }, folder) where
  succeeds := ⟨fun _ => ⟨⟨s, rfl⟩, by simp [hfile]⟩, fun _ => rfl⟩
  prints s' hs _ := by
    obtain rfl := Except.ok.inj hs
    exact ⟨List.flatMap_singleton _ _, rfl⟩
  faithful s' hs _ := by
    obtain rfl := Except.ok.inj hs
    rw [← echoed_eq_self_iff, Outcome.stdout, List.flatMap_singleton]
    exact List.append_left_inj _
  writes s path place _ hpath := by simp [hfile] at hpath
  fails hstatus := absurd rfl hstatus

theorem delivers_of_written {folder : Folder} {output : Option Text} {path : Text} {place : Place}
    (hfile : fileOf output = some path) (htarget : folder.target path = .ok place)
    (reported : List Text) (s : Text) :
    Delivers folder output (.ok s)
      ({ reported := reported, file := some (path, s) }, folder.put place s) where
  succeeds := by
    refine ⟨fun _ => ⟨⟨s, rfl⟩, fun other hother => ?_⟩, fun _ => rfl⟩
    rw [hfile] at hother
    exact ⟨place, Option.some.inj hother ▸ htarget⟩
  prints s' _ hnone := by simp [hfile] at hnone
  faithful s' _ hnone := by simp [hfile] at hnone
  writes s' path' place' hs hpath hplace := by
    obtain rfl := Except.ok.inj hs
    obtain rfl := Option.some.inj (hfile.symm.trans hpath)
    obtain rfl := Except.ok.inj (htarget.symm.trans hplace)
    exact ⟨rfl, rfl, Folder.find_put htarget s⟩
  fails hstatus := absurd rfl hstatus

theorem delivers_of_ends {folder : Folder} {incoming : Text} {arguments : List Text}
    {output : Option Text} {result : Except ConversionFault Text}
    (h : Outcome.Ends output result (run (folder.source incoming) arguments)) :
    Delivers folder output result (runIn folder incoming arguments) := by
  rw [runIn]
  generalize run (folder.source incoming) arguments = outcome at h
  cases h with
  | failed h =>
      rw [h.fileless]
      exact delivers_of_failed h fun hdone => nomatch hdone.1
  | result reported s =>
      cases hfile : fileOf output with
      | none =>
          have hprinted : Outcome.result reported output s =
              { reported := reported, printed := [echoed s] } := by
            rw [Outcome.result, ← fileOf, hfile]
          rw [hprinted]
          exact delivers_of_printed hfile reported s
      | some path =>
          have hwritten : Outcome.result reported output s =
              { reported := reported, file := some (path, s) } := by
            rw [Outcome.result, ← fileOf, hfile]
          rw [hwritten]
          cases htarget : folder.target path with
          | ok place =>
              simp only [htarget]
              exact delivers_of_written hfile htarget reported s
          | error obstacle =>
              simp only [htarget]
              refine delivers_of_failed (failure_failed _) fun hdone => ?_
              obtain ⟨place, hplace⟩ := hdone.2 path hfile
              rw [htarget] at hplace
              cases hplace

theorem unifyBreaks_of_no_return {s : Text} (h : '\r' ∉ s) : unifyBreaks s = s := by
  fun_induction unifyBreaks s <;> simp_all

def Job.writesRecord : Job → Bool
  | parse _ _ _ => true
  | convert _ target _ _ => target == Format.record.id
  | _ => false

theorem unstyled_of_writesRecord {job : Job} (h : job.writesRecord = true) {text s : Text}
    {output : Option Text} (htask : job.task? text = some (output, .ok s)) : Unstyled s := by
  cases job with
  | help | detect | validate | formats => cases h
  | parse source sortKeys output =>
      obtain ⟨-, hresult⟩ := Prod.mk.inj (Option.some.inj htask)
      cases hflow : parseFlow source text with
      | error fault => simp [hflow, Except.map] at hresult
      | ok flow =>
          rw [hflow] at hresult
          rw [← Except.ok.inj hresult]
          exact unstyled_record sortKeys 2 flow
  | convert source target direction output =>
      obtain rfl : target = Format.record.id := eq_of_beq h
      obtain ⟨-, hresult⟩ := Prod.mk.inj (Option.some.inj htask)
      obtain ⟨flow, -, hwritten⟩ := Except.exists_of_bind_eq_ok hresult
      have hrecord : (Catalog.standard defaultSettings).write Format.record.id
          (directed direction) flow = .ok (Record.write (directed direction).json flow) := rfl
      have hstyle : (directed direction).json = ⟨some (Text.spaces 2), false⟩ := by
        cases direction <;> rfl
      rw [hrecord, hstyle] at hwritten
      rw [← Except.ok.inj hwritten]
      exact unstyled_record false 2 flow

/-- A command that is read as such a job delivers what the library functions make of its text.
Records hold no style sequences, so they are always printed as they are. -/
theorem runIn_delivers {folder : Folder} {incoming text : Text} {arguments : List Text}
    {request : Request} {job : Job} {output : Option Text}
    {result : Except ConversionFault Text} (hread : Request.read arguments = .ok request)
    (hsource : folder.source incoming request.input = .text text) (hreturns : '\r' ∉ text)
    (hjob : request.job = .ok job) (htask : job.task? text = some (output, result)) :
    Delivers folder output result (runIn folder incoming arguments) ∧
      (job.writesRecord = true → ∀ s, result = .ok s → Unstyled s) := by
  have hrun : run (folder.source incoming) arguments = job.run request.level text := by
    rw [run, hread]
    simp only [Request.run, hsource, hjob, unifyBreaks_of_no_return hreturns]
  refine ⟨delivers_of_ends (hrun ▸ job.run_ends htask request.level), fun hrecord s hs => ?_⟩
  exact unstyled_of_writesRecord hrecord (hs ▸ htask)

def boldText : Text := "start\n:\x1b[1mBold;\nstop\n".toList

def boldJob : Job := .convert (some "plantuml".toList) "plantuml".toList none none

def boldArguments : List Text :=
  Action.convert.name ::
    spelled [(.source, "plantuml".toList), (.target, "plantuml".toList)]

theorem read_boldArguments : Request.read boldArguments = .ok { job := .ok boldJob } :=
  read_spelled (by decide) (by decide) (by decide) rfl

def boldDiagram : Text :=
  "@startuml\ntitle PlantUML Activity Diagram\n\nstart\n".toList ++
    ":\x1b[1mBold;\nstop\n\n@enduml".toList

theorem task?_boldJob : boldJob.task? boldText = some (none, .ok boldDiagram) := by decide +kernel

theorem not_unstyled_boldDiagram : ¬ Unstyled boldDiagram := by
  intro h
  have hnone := h "\x1b[1mBold;\nstop\n\n@enduml".toList (by decide)
  exact absurd hnone (by decide)

/-- The diagram is printed without the sequence, so it is not what the library function gives. -/
theorem runIn_delivers_bold :
    (Request.read boldArguments = .ok { job := .ok boldJob } ∧ '\r' ∉ boldText ∧
      boldJob.task? boldText = some (none, .ok boldDiagram)) ∧
      Delivers {} none (.ok boldDiagram) (runIn {} boldText boldArguments) ∧
      (runIn {} boldText boldArguments).1.stdout ≠ boldDiagram ++ ['\n'] := by
  have hsource : ({} : Folder).source boldText none = .text boldText := rfl
  obtain ⟨hdelivers, -⟩ :=
    runIn_delivers read_boldArguments hsource (by decide) rfl task?_boldJob
  refine ⟨⟨read_boldArguments, by decide, task?_boldJob⟩, hdelivers, fun hstdout => ?_⟩
  exact not_unstyled_boldDiagram ((hdelivers.faithful boldDiagram rfl rfl).1 hstdout)

end Flowchart.Command
