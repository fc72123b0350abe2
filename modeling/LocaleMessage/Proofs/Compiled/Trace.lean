import LocaleMessage.Proofs.Compiled.Running
import LocaleMessage.Template

/-! Which arguments a run reads, along the branches that are chosen. A trace keeps every reading,
of bound arguments too, where a run only notes what it finds missing. What is missing, and with it
what a message answers, strict or not, is determined by the trace. -/
namespace LocaleMessage

/-- The text of a run, and the arguments that were read for it: in the order of reading, and each
as often as it was read. -/
structure Trace where
  text : String
  reads : List String

namespace Trace

/-- A trace behind the reading of an argument, whether it is bound or not. -/
def afterReading (id : String) (trace : Trace) : Trace :=
  ⟨trace.text, id :: trace.reads⟩

/-- One trace behind another. -/
def append (first second : Trace) : Trace :=
  ⟨first.text ++ second.text, first.reads ++ second.reads⟩

/-- The arguments that were read without being bound, each once and in the order of first
reading. -/
def missing (bindings : Bindings) (trace : Trace) : List String :=
  (trace.reads.filter fun id => (bindings id).isNone).eraseDups

end Trace

variable {m : Type → Type} [Monad m]

/-- The trace of reading an argument and going on with its value, or without one. -/
def Environment.read (env : Environment m) (id : String) (next : Option Value → m Trace) :
    m Trace :=
  Trace.afterReading id <$> next (env.bindings id)

/-- The trace of reading an argument and writing it. Where it is not bound, the text that stands for
it is written. -/
def Environment.readAndWrite (env : Environment m) (id : String) (text : Value → String) :
    m Trace :=
  env.read id fun value => return ⟨(value.map text).getD (placeholder id), []⟩

namespace Operation

/-- To prove something of all operations, it is enough to prove it of each from its parts. The
branch for the other cases is a part of its clause. -/
@[elab_as_elim]
theorem induct {motive : Operation → Prop} (literal : ∀ text, motive (.literal text))
    (sequence : ∀ parts, (∀ part ∈ parts, motive part) → motive (.sequence parts))
    (simple : ∀ id, motive (.simple id))
    (number : ∀ id offset style, motive (.number id offset style))
    (dateTime : ∀ id part style, motive (.dateTime id part style))
    (plural : ∀ id type offset options other, (∀ branch ∈ options, motive branch.content) →
      motive other → motive (.plural id type offset options other))
    (select : ∀ id options other, (∀ branch ∈ options, motive branch.content) →
      motive other → motive (.select id options other))
    (operation : Operation) : motive operation :=
  @Operation.rec motive (fun parts => ∀ part ∈ parts, motive part)
    (fun options => ∀ branch ∈ options, motive branch.content) (fun branch => motive branch.content)
    literal sequence simple number dateTime plural select
    (fun _ h => nomatch h) (fun _ _ hFirst hOthers => List.forall_mem_cons.mpr ⟨hFirst, hOthers⟩)
    (fun _ h => nomatch h) (fun _ _ hFirst hOthers => List.forall_mem_cons.mpr ⟨hFirst, hOthers⟩)
    (fun _ _ h => h) operation

mutual

/-- The trace of an operation: reads along the branches that are chosen. -/
def trace (env : Environment m) : Operation → m Trace
  | literal text => return ⟨text, []⟩
  | sequence parts => traceAll env parts
  | simple id => env.readAndWrite id Value.text
  | number id offset style => env.readAndWrite id (env.writeNumber offset style)
  | dateTime id part style => env.readAndWrite id (env.writeDateTime part style)
  | plural id type offset options other =>
    env.read id fun
      | none => trace env other
      | some value =>
        match traceBranch env ("=" ++ value.text) options, value.number? with
        | some exact, _ => exact
        | none, none => trace env other
        | none, some n => do
          let category ← env.formatters.category (n.minus offset) env.locale type
          (traceBranch env category.text options).getD (trace env other)
  | select id options other =>
    env.read id fun
      | none => trace env other
      | some value => (traceBranch env value.text options).getD (trace env other)

/-- The traces of operations, one behind the other. -/
def traceAll (env : Environment m) : List Operation → m Trace
  | [] => return ⟨"", []⟩
  | operation :: rest => do
    let first ← trace env operation
    return first.append (← traceAll env rest)

/-- The trace of the first branch with a selector. -/
def traceBranch (env : Environment m) (selector : String) :
    List (Branch Operation) → Option (m Trace)
  | [] => none
  | ⟨name, operation⟩ :: rest =>
    if name = selector then some (trace env operation) else traceBranch env selector rest

end

theorem traceBranch_eq (env : Environment m) (selector : String)
    (branches : List (Branch Operation)) :
    traceBranch env selector branches = (Branch.find? branches selector).map (trace env) := by
  induction branches with
  | nil => simp [traceBranch, Branch.find?]
  | cons first others ih =>
      simp only [traceBranch, ih, Branch.find?]
      by_cases h : first.selector = selector <;> simp [h]

end Operation

/-- What a run has found missing after some more arguments were read. It is noted once, however
often it is read. -/
def Bindings.note (bindings : Bindings) (missing reads : List String) : List String :=
  reads.foldl (fun missing id => if (bindings id).isNone then insertLast id missing else missing)
    missing

theorem Bindings.note_cons (bindings : Bindings) (missing : List String) (id : String)
    (reads : List String) : bindings.note missing (id :: reads) =
      bindings.note (if (bindings id).isNone then insertLast id missing else missing) reads :=
  rfl

theorem Bindings.note_append (bindings : Bindings) (missing reads reads' : List String) :
    bindings.note missing (reads ++ reads') =
      bindings.note (bindings.note missing reads) reads' :=
  List.foldl_append

/-- Noting is adding those that are new and not bound, each once, behind what has been noted. -/
theorem Bindings.note_eq_append (bindings : Bindings) (missing reads : List String) :
    bindings.note missing reads =
      missing ++ (reads.filter fun id => (bindings id).isNone && id ∉ missing).eraseDups := by
  rw [note, ← List.foldl_filter, Branch.foldl_insertLast, List.filter_filter]
  simp only [Bool.and_comm]

/-- A run writes what the trace writes, and notes of its reads those that are not bound. It may
begin with anything noted already. -/
def TracedBy (env : Environment m) (run : Evaluation m String) (trace : m Trace) : Prop :=
  ∀ missing, run missing = (fun t => (t.text, env.bindings.note missing t.reads)) <$> trace

namespace TracedBy

variable [LawfulMonad m] {env : Environment m}

theorem text (text : String) : TracedBy env (return text) (return ⟨text, []⟩) := by
  intro missing
  rw [map_pure]
  rfl

theorem append {first second : Evaluation m String} {trace trace' : m Trace}
    (hFirst : TracedBy env first trace) (hSecond : TracedBy env second trace') :
    TracedBy env (do return (← first) ++ (← second))
      (do return (← trace).append (← trace')) := by
  intro missing
  change (first missing >>= fun r => second r.2 >>= fun r' => pure (r.1 ++ r'.1, r'.2)) = _
  simp only [hFirst missing, hSecond _, map_eq_pure_bind, bind_assoc, pure_bind, Trace.append,
    Bindings.note_append]

/-- What is read is noted before all that is read behind it. So arguments are told in the order of
first reading. -/
theorem lookup_bind {id : String} {next : Option Value → Evaluation m String}
    {trace : Option Value → m Trace} (h : ∀ value, TracedBy env (next value) (trace value)) :
    TracedBy env (env.lookup id >>= next) (env.read id trace) := by
  intro missing
  change (env.lookup id missing >>= fun read => next read.1 read.2) = _
  rw [Environment.read, ← comp_map, Environment.lookup]
  cases hValue : env.bindings id with
  | none =>
      rw [pure_bind, h none]
      simp [Trace.afterReading, Function.comp_def, Bindings.note_cons, hValue]
  | some value =>
      rw [pure_bind, h (some value)]
      simp [Trace.afterReading, Function.comp_def, Bindings.note_cons, hValue]

theorem lift_bind {α : Type} {x : m α} {next : α → Evaluation m String} {trace : α → m Trace}
    (h : ∀ a, TracedBy env (next a) (trace a)) :
    TracedBy env (liftM x >>= next) (x >>= trace) := by
  intro missing
  rw [map_bind]
  change ((x >>= fun a => pure (a, missing)) >>= fun r => next r.1 r.2) = _
  rw [bind_assoc]
  refine bind_congr fun a => ?_
  rw [pure_bind, h a missing]

theorem write (id : String) (text : Value → String) :
    TracedBy env (env.write id text) (env.readAndWrite id text) := by
  refine lookup_bind ?_
  rintro (_ | value)
  · exact .text (placeholder id)
  · exact .text (text value)

end TracedBy

/-- Every operation runs as it is traced. The proof is by induction on the operation, and in each
case puts the steps together that it takes. -/
theorem Operation.tracedBy_evaluate [LawfulMonad m] (env : Environment m) (operation : Operation) :
    TracedBy env (operation.evaluate env) (operation.trace env) := by
  induction operation using Operation.induct with
  | literal text =>
      rw [evaluate, trace]
      exact .text text
  | sequence parts ih =>
      rw [evaluate, trace]
      induction parts with
      | nil =>
          rw [evaluateAll, traceAll]
          exact .text ""
      | cons first others ihOthers =>
          rw [evaluateAll, traceAll]
          obtain ⟨hFirst, hOthers⟩ := List.forall_mem_cons.mp ih
          exact hFirst.append (ihOthers hOthers)
  | simple id =>
      rw [evaluate, trace]
      exact TracedBy.write id _
  | number id offset style =>
      rw [evaluate, trace]
      exact TracedBy.write id _
  | dateTime id part style =>
      rw [evaluate, trace]
      exact TracedBy.write id _
  | plural id type offset options other ih ihOther =>
      rw [evaluate, trace]
      simp only [evaluateBranch_eq, traceBranch_eq, Environment.category_bind]
      refine TracedBy.lookup_bind ?_
      rintro (_ | value)
      · exact ihOther
      · dsimp only
        cases hExact : Branch.find? options ("=" ++ value.text) with
        | some chosen =>
            have hTraced : ∀ operation ∈ Branch.find? options ("=" ++ value.text),
                TracedBy env (operation.evaluate env) (operation.trace env) := Branch.forall_find? ih
            exact hTraced chosen hExact
        | none =>
            cases hNumber : value.number? with
            | none => exact ihOther
            | some n =>
                exact TracedBy.lift_bind fun category =>
                  Branch.related_find?_getD ih ihOther category.text
  | select id options other ih ihOther =>
      rw [evaluate, trace]
      simp only [evaluateBranch_eq, traceBranch_eq]
      refine TracedBy.lookup_bind ?_
      rintro (_ | value)
      · exact ihOther
      · exact Branch.related_find?_getD ih ihOther value.text

/-- A run begins with nothing missing, and ends with what its trace has read in vain. -/
theorem Operation.evaluate_run [LawfulMonad m] (env : Environment m) (operation : Operation) :
    (operation.evaluate env).run [] =
      (fun t => (t.text, t.missing env.bindings)) <$> operation.trace env := by
  have hNote (t : Trace) : env.bindings.note [] t.reads = t.missing env.bindings := by
    rw [Bindings.note_eq_append, Trace.missing]
    simp
  simp only [← hNote]
  exact tracedBy_evaluate env operation []

namespace Trace

/-- What a message answers when a run is over. Only a strict message looks at what is missing. -/
def answer (bindings : Bindings) (strict : Bool) (trace : Trace) : Except FormatError String :=
  if strict = true ∧ trace.missing bindings ≠ [] then .error (.missing (trace.missing bindings))
  else .ok trace.text

theorem answer_lenient (bindings : Bindings) (trace : Trace) :
    trace.answer bindings false = .ok trace.text := by
  simp [answer]

end Trace

theorem format_eq_answer [LawfulMonad m] (message : Message) (options : CompileOptions m)
    (bindings : Bindings) :
    (CompiledMessage.ofMessage message options).format bindings =
      (fun t => t.answer bindings options.strict) <$>
        (Operation.ofMessage message).trace ⟨bindings, options.locale, options.formatters⟩ := by
  rw [CompiledMessage.format, CompiledMessage.ofMessage, Operation.evaluate_run]
  simp only [map_eq_pure_bind, bind_assoc, pure_bind]
  refine bind_congr fun t => ?_
  rw [Trace.answer]
  cases options.strict <;> cases t.missing bindings <;> simp

omit [Monad m] in
theorem compiled_of_build {pattern : String} {options : CompileOptions m} {template : Template m}
    (h : Template.build pattern options = .ok template) :
    template.compiled = CompiledMessage.ofMessage template.message options := by
  unfold Template.build at h
  cases hParse : Pattern.parse pattern with
  | error e => simp [hParse, bind, Except.bind] at h
  | ok message =>
      simp only [hParse, bind, Except.bind, pure, Except.pure, Except.ok.injEq] at h
      subst h
      rfl

/-- The one-step way of formatting never finds fault with the arguments, because it is not strict.
Patterns may still be refused. -/
theorem formatMessage_ne_format_error (pattern : String) (bindings : Bindings) (locale : String)
    (e : FormatError) : formatMessage pattern bindings locale ≠ .error (.format e) := by
  unfold formatMessage
  dsimp only
  cases hBuild : Template.build pattern (⟨locale, false, .standard⟩ : CompileOptions Id) with
  | error e => simp
  | ok template =>
      have hText : ∃ text, Id.run (template.format bindings) = .ok text := by
        rw [Template.format, compiled_of_build hBuild, format_eq_answer]
        exact ⟨_, Trace.answer_lenient bindings _⟩
      obtain ⟨text, hText⟩ := hText
      simp [hText]

/-- Missing arguments are told exactly. They are those that are read without being bound, each
once and in the order of first reading; a strict message refuses with them if there are any, and
otherwise the text is the same whether the message is strict or not. -/
theorem format_tells_missing [LawfulMonad m] (message : Message) (locale : String)
    (formatters : Formatters m) (bindings : Bindings) :
    let operation := Operation.ofMessage message
    let env : Environment m := ⟨bindings, locale, formatters⟩
    let format (strict : Bool) :=
      (CompiledMessage.ofMessage message ⟨locale, strict, formatters⟩).format bindings
    (operation.evaluate env).run [] =
        (fun t => (t.text, t.missing bindings)) <$> operation.trace env ∧
      format true = (fun t => if t.missing bindings = [] then .ok t.text
        else .error (.missing (t.missing bindings))) <$> operation.trace env ∧
      format false = (fun t => .ok t.text) <$> operation.trace env ∧
      ∀ pattern e, formatMessage pattern bindings locale ≠ .error (.format e) := by
  intro operation env format
  refine ⟨operation.evaluate_run env, ?_, ?_, fun pattern e =>
    formatMessage_ne_format_error pattern bindings locale e⟩
  · have hStrict := format_eq_answer message ⟨locale, true, formatters⟩ bindings
    simpa only [Trace.answer, true_and, ne_eq, ite_not] using hStrict
  · have hLenient := format_eq_answer message ⟨locale, false, formatters⟩ bindings
    simpa only [Trace.answer_lenient] using hLenient

/-- The argument `n` is read twice and not told of because it is bound, and `a` is told of once. -/
theorem format_tells_missing_nested :
    ([true, false].map fun strict => (CompiledMessage.ofMessage
      [.argument "a", .plural "n" false 1 [⟨"one", [.argument "x"]⟩,
        ⟨"other", [.pound, .argument "b", .select "g" [⟨"other", [.argument "a"]⟩]]⟩]]
      (⟨"en", strict, ⟨fun _ _ _ => .other, fun n _ _ => n.text, fun _ _ _ _ => ""⟩⟩ :
        CompileOptions Id)).format (.ofList [("n", .number 5)])) =
      [.error (.missing ["a", "b", "g"]), .ok "\x7ba\x7d4\x7bb\x7d\x7ba\x7d"] := by
  obtain ⟨_, hStrict, hLenient, _⟩ := format_tells_missing
    [.argument "a", .plural "n" false 1 [⟨"one", [.argument "x"]⟩,
      ⟨"other", [.pound, .argument "b", .select "g" [⟨"other", [.argument "a"]⟩]]⟩]]
    "en" (⟨fun _ _ _ => .other, fun n _ _ => n.text, fun _ _ _ _ => ""⟩ : Formatters Id)
    (.ofList [("n", .number 5)])
  dsimp only at hStrict hLenient
  rw [List.map_cons, List.map_cons, List.map_nil, hStrict, hLenient]
  rfl

end LocaleMessage
