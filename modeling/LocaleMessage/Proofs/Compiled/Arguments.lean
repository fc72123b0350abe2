import LocaleMessage.Proofs.Compiled.Trace

/-! Which arguments a message can read at all. The list of a message's arguments is made from its
tree, where the number sign names none; what a run reads is decided, branch by branch, by the values
that it reads. Two runs are compared step by step, so that a relation between them has to be shown
for single steps only. -/
namespace LocaleMessage

/-- All arguments that the element names, and all selectors it has, are as they should be, at every
depth. The number sign names no argument of its own. -/
inductive Element.Uses (reads selects : String → Prop) : Element → Prop where
  | literal {text : String} : Uses reads selects (.literal text)
  | pound : Uses reads selects .pound
  | argument {id : String} (hId : reads id) : Uses reads selects (.argument id)
  | typed {id : String} {kind : ArgumentKind} {style : Option String} (hId : reads id) :
      Uses reads selects (.typed id kind style)
  | plural {id : String} {ordinal : Bool} {offset : UInt32} {options : List (Branch Message)}
      (hId : reads id) (hSelectors : ∀ branch ∈ options, selects branch.selector)
      (hOptions : ∀ branch ∈ options, ∀ element ∈ branch.content, Uses reads selects element) :
      Uses reads selects (.plural id ordinal offset options)
  | select {id : String} {options : List (Branch Message)} (hId : reads id)
      (hSelectors : ∀ branch ∈ options, selects branch.selector)
      (hOptions : ∀ branch ∈ options, ∀ element ∈ branch.content, Uses reads selects element) :
      Uses reads selects (.select id options)

/-- All arguments that the operation may read, and all selectors it has, are as they should be,
whichever branches are taken. -/
inductive Operation.Uses (reads selects : String → Prop) : Operation → Prop where
  | literal {text : String} : Uses reads selects (.literal text)
  | sequence {parts : List Operation} (hParts : ∀ part ∈ parts, Uses reads selects part) :
      Uses reads selects (.sequence parts)
  | simple {id : String} (hId : reads id) : Uses reads selects (.simple id)
  | number {id : String} {offset : UInt32} {style : NumberStyle} (hId : reads id) :
      Uses reads selects (.number id offset style)
  | dateTime {id : String} {part : DatePart} {style : DateStyle} (hId : reads id) :
      Uses reads selects (.dateTime id part style)
  | plural {id : String} {type : PluralType} {offset : UInt32} {options : List (Branch Operation)}
      {other : Operation} (hId : reads id) (hSelectors : ∀ branch ∈ options, selects branch.selector)
      (hOptions : ∀ branch ∈ options, Uses reads selects branch.content)
      (hOther : Uses reads selects other) :
      Uses reads selects (.plural id type offset options other)
  | select {id : String} {options : List (Branch Operation)} {other : Operation} (hId : reads id)
      (hSelectors : ∀ branch ∈ options, selects branch.selector)
      (hOptions : ∀ branch ∈ options, Uses reads selects branch.content)
      (hOther : Uses reads selects other) :
      Uses reads selects (.select id options other)

variable {reads selects : String → Prop}

namespace Operation

theorem ofElements_eq_map (pound : PoundTarget) (message : Message) :
    ofElements pound message = message.map (ofElement pound) := by
  induction message with
  | nil => rw [ofElements, List.map_nil]
  | cons element rest ih => rw [ofElements, ih, List.map_cons]

theorem ofOptions_eq_map (pound : PoundTarget) (options : List (Branch Message)) :
    ofOptions pound options =
      options.map fun branch => ⟨branch.selector, ofParts (branch.content.map (ofElement pound))⟩ := by
  induction options with
  | nil => rw [ofOptions, List.map_nil]
  | cons first others ih => rw [ofOptions, ih, ofElements_eq_map, List.map_cons]

theorem Uses.ofParts {parts : List Operation} (h : ∀ part ∈ parts, part.Uses reads selects) :
    (ofParts parts).Uses reads selects := by
  match parts with
  | [] => exact .literal
  | [part] => exact h part (List.mem_singleton_self part)
  | _ :: _ :: _ => exact .sequence h

theorem mem_of_mem_withoutOther {branches : List (Branch Operation)} {branch : Branch Operation}
    (h : branch ∈ withoutOther branches) : branch ∈ branches :=
  List.mem_of_mem_filter (Branch.mem_of_mem_merge h)

theorem Uses.lastOther {branches : List (Branch Operation)}
    (h : ∀ branch ∈ branches, branch.content.Uses reads selects) :
    (lastOther branches).Uses reads selects := by
  rw [Operation.lastOther]
  cases hOther : Branch.find? branches.reverse "other" with
  | none => exact .literal
  | some other =>
      exact Branch.forall_find? (fun branch hMem => h branch (List.mem_reverse.mp hMem)) other hOther

/-- What an element uses, the operation for it uses, and the argument of the nearest plural. The
latter is read by number signs only. -/
theorem uses_ofElement {element : Element} (h : element.Uses reads selects) (pound : PoundTarget)
    (hPound : ∀ target ∈ pound, reads target.1) :
    (ofElement pound element).Uses reads selects := by
  have hBranches {pound : PoundTarget} {options : List (Branch Message)}
      (hSelectors : ∀ branch ∈ options, selects branch.selector)
      (hOptions : ∀ branch ∈ options, ∀ element ∈ branch.content,
        (ofElement pound element).Uses reads selects) :
      ∀ branch ∈ ofOptions pound options,
        selects branch.selector ∧ branch.content.Uses reads selects := by
    rw [ofOptions_eq_map]
    intro _ hMem
    obtain ⟨branch, hBranch, rfl⟩ := List.mem_map.mp hMem
    refine ⟨hSelectors branch hBranch, Uses.ofParts ?_⟩
    intro _ hPart
    obtain ⟨element, hElement, rfl⟩ := List.mem_map.mp hPart
    exact hOptions branch hBranch element hElement
  induction h generalizing pound with
  | literal => exact .literal
  | argument hId => exact .simple hId
  | @typed id kind style hId =>
      cases kind with
      | number => exact .number hId
      | date | time => exact .dateTime hId
  | pound =>
      cases pound with
      | none => exact .literal
      | some target => exact .number (hPound target rfl)
  | @plural id _ offset options hId hSelectors _ ih =>
      have hUses := hBranches hSelectors fun branch hBranch element hElement =>
        ih branch hBranch element hElement (some (id, offset)) (by rintro _ ⟨⟩; exact hId)
      rw [ofElement]
      exact .plural hId (fun branch hMem => (hUses branch (mem_of_mem_withoutOther hMem)).1)
        (fun branch hMem => (hUses branch (mem_of_mem_withoutOther hMem)).2)
        (Uses.lastOther fun branch hMem => (hUses branch hMem).2)
  | select hId hSelectors _ ih =>
      have hUses := hBranches hSelectors fun branch hBranch element hElement =>
        ih branch hBranch element hElement pound hPound
      rw [ofElement]
      exact .select hId (fun branch hMem => (hUses branch (mem_of_mem_withoutOther hMem)).1)
        (fun branch hMem => (hUses branch (mem_of_mem_withoutOther hMem)).2)
        (Uses.lastOther fun branch hMem => (hUses branch hMem).2)

theorem uses_ofMessage {message : Message} (h : ∀ element ∈ message, element.Uses reads selects) :
    (ofMessage message).Uses reads selects := by
  rw [ofMessage, ofElements_eq_map]
  refine Uses.ofParts ?_
  intro _ hPart
  obtain ⟨element, hElement, rfl⟩ := List.mem_map.mp hPart
  exact uses_ofElement (h element hElement) none (by simp)

end Operation

/-- What holds of a list with one added holds of the list and of the one, whether it was there or
not. -/
theorem forall_mem_insertLast {p : String → Prop} {id : String} {ids : List String} :
    (∀ x ∈ insertLast id ids, p x) ↔ (∀ x ∈ ids, p x) ∧ p id := by
  unfold insertLast
  split_ifs with hMem
  · exact ⟨fun h => ⟨h, h id hMem⟩, And.left⟩
  · simp [or_imp, forall_and]

mutual

/-- The arguments of an element are all among those that are listed for it. What was listed before
is kept, and the three statements go by recursion on the tree. -/
theorem Element.uses_of_addIds : (element : Element) → (ids : List String) →
    (∀ id ∈ element.addIds ids, reads id) →
      (∀ id ∈ ids, reads id) ∧ element.Uses reads (fun _ => True)
  | .literal _, _, h => ⟨h, .literal⟩
  | .pound, _, h => ⟨h, .pound⟩
  | .argument _, _, h => (forall_mem_insertLast.mp h).imp_right .argument
  | .typed _ _ _, _, h => (forall_mem_insertLast.mp h).imp_right .typed
  | .plural id _ _ options, ids, h => by
      obtain ⟨hIds, hOptions⟩ := uses_of_addOptionIds options (insertLast id ids) h
      obtain ⟨hIds, hId⟩ := forall_mem_insertLast.mp hIds
      exact ⟨hIds, .plural hId (fun _ _ => trivial) hOptions⟩
  | .select id options, ids, h => by
      obtain ⟨hIds, hOptions⟩ := uses_of_addOptionIds options (insertLast id ids) h
      obtain ⟨hIds, hId⟩ := forall_mem_insertLast.mp hIds
      exact ⟨hIds, .select hId (fun _ _ => trivial) hOptions⟩

theorem uses_of_addMessageIds : (message : List Element) → (ids : List String) →
    (∀ id ∈ addMessageIds ids message, reads id) →
      (∀ id ∈ ids, reads id) ∧ ∀ element ∈ message, element.Uses reads (fun _ => True)
  | [], _, h => ⟨h, by simp⟩
  | element :: rest, ids, h => by
      obtain ⟨hIds, hRest⟩ := uses_of_addMessageIds rest (element.addIds ids) h
      obtain ⟨hIds, hElement⟩ := element.uses_of_addIds ids hIds
      exact ⟨hIds, List.forall_mem_cons.mpr ⟨hElement, hRest⟩⟩

theorem uses_of_addOptionIds : (options : List (Branch (List Element))) → (ids : List String) →
    (∀ id ∈ addOptionIds ids options, reads id) →
      (∀ id ∈ ids, reads id) ∧
        ∀ branch ∈ options, ∀ element ∈ branch.content, element.Uses reads (fun _ => True)
  | [], _, h => ⟨h, by simp⟩
  | ⟨_, message⟩ :: rest, ids, h => by
      obtain ⟨hIds, hRest⟩ := uses_of_addOptionIds rest (addMessageIds ids message) h
      obtain ⟨hIds, hMessage⟩ := uses_of_addMessageIds message ids hIds
      exact ⟨hIds, List.forall_mem_cons.mpr ⟨hMessage, hRest⟩⟩

end

/-- Of what a message may read, no argument is left out of its list. -/
theorem uses_argumentIds (message : Message) :
    ∀ element ∈ message, element.Uses (· ∈ message.argumentIds) (fun _ => True) :=
  (uses_of_addMessageIds message [] fun _ hMem => hMem).2

variable {m : Type → Type} [Monad m]

/-- The same run with other values for the arguments. The locale and the services stay. -/
def Environment.rebind (env : Environment m) (bindings : Bindings) : Environment m :=
  { env with bindings }

/-- A relation between the traces of two runs, with the bindings of the first and with others, that
every step of the runs keeps. Only arguments that may be read are ever read. -/
structure KeptBySteps (env : Environment m) (bindings : Bindings) (reads : String → Prop)
    (Related : m Trace → m Trace → Prop) : Prop where
  text : ∀ text, Related (return ⟨text, []⟩) (return ⟨text, []⟩)
  append : ∀ {first first' second second'}, Related first first' → Related second second' →
    Related (do return (← first).append (← second)) (do return (← first').append (← second'))
  read : ∀ {id next next'}, reads id → (∀ value, Related (next value) (next' value)) →
    Related (env.read id next) ((env.rebind bindings).read id next')
  category : ∀ {n type next next'}, (∀ category, Related (next category) (next' category)) →
    Related (env.formatters.category n env.locale type >>= next)
      (env.formatters.category n env.locale type >>= next')

/-- What every step keeps, whole operations keep. By induction on the operation, each case puts
together the steps that its trace is made of. -/
theorem Operation.Uses.related {operation : Operation} (h : operation.Uses reads selects)
    {env : Environment m} {bindings : Bindings} {Related : m Trace → m Trace → Prop}
    (hKept : KeptBySteps env bindings reads Related) :
    Related (operation.trace env) (operation.trace (env.rebind bindings)) := by
  induction h with
  | literal =>
      simp only [trace]
      exact hKept.text _
  | @sequence parts hParts ih =>
      simp only [trace]
      clear hParts
      induction parts with
      | nil =>
          simp only [traceAll]
          exact hKept.text ""
      | cons first others ihOthers =>
          simp only [traceAll]
          obtain ⟨hFirst, hOthers⟩ := List.forall_mem_cons.mp ih
          exact hKept.append hFirst (ihOthers hOthers)
  | simple hId | number hId | dateTime hId =>
      simp only [trace]
      exact hKept.read hId fun _ => hKept.text _
  | @plural _ _ _ options other hId _ _ _ ih ihOther =>
      simp only [trace, traceBranch_eq]
      -- Behind the reading both runs go on with the same value, and so with the same branch.
      refine hKept.read hId ?_
      rintro (_ | value)
      · exact ihOther
      · dsimp only
        cases hExact : Branch.find? options ("=" ++ value.text) with
        | some chosen =>
            have hRelated : ∀ operation ∈ Branch.find? options ("=" ++ value.text),
                Related (operation.trace env) (operation.trace (env.rebind bindings)) :=
              Branch.forall_find? ih
            exact hRelated chosen hExact
        | none =>
            cases hNumber : value.number? with
            | none => exact ihOther
            | some n =>
                exact hKept.category fun category => Branch.related_find?_getD ih ihOther category.text
  | @select _ options other hId _ _ _ ih ihOther =>
      simp only [trace, traceBranch_eq]
      refine hKept.read hId ?_
      rintro (_ | value)
      · exact ihOther
      · exact Branch.related_find?_getD ih ihOther value.text

/-- All that the traces of a run have read is as it should be: whatever is done with a trace, no
other trace has to be thought of. -/
def ReadsOnly (reads : String → Prop) (trace : m Trace) : Prop :=
  ∀ (α : Type) (f g : Trace → m α), (∀ t, (∀ id ∈ t.reads, reads id) → f t = g t) →
    trace >>= f = trace >>= g

/-- Reading only what one should is kept by every step: texts read nothing, and what is read is
noted in front of the rest. -/
theorem keptBySteps_readsOnly [LawfulMonad m] (env : Environment m) (bindings : Bindings) :
    KeptBySteps env bindings reads fun trace _ => ReadsOnly reads trace where
  text text α f g h := by
    rw [pure_bind, pure_bind]
    exact h _ (by simp)
  append hFirst hSecond α f g h := by
    simp only [bind_assoc, pure_bind]
    refine hFirst _ _ _ fun t ht => hSecond _ _ _ fun t' ht' => h _ ?_
    simpa [Trace.append, or_imp, forall_and] using ⟨ht, ht'⟩
  read hId hNext α f g h := by
    rw [Environment.read, bind_map_left, bind_map_left]
    refine hNext _ _ _ _ fun t ht => h _ ?_
    simpa [Trace.afterReading] using ⟨hId, ht⟩
  category hNext α f g h := by
    rw [bind_assoc, bind_assoc]
    exact bind_congr fun category => hNext category α f g h

/-- An operation reads nothing that it does not use. -/
theorem Operation.Uses.readsOnly_trace [LawfulMonad m] {operation : Operation}
    (h : operation.Uses reads selects) (env : Environment m) :
    ReadsOnly reads (operation.trace env) :=
  h.related (keptBySteps_readsOnly env env.bindings)

section

variable {σ : Type}

/-- In a run with a state the condition is the plain one, on the trace that comes out. -/
theorem ReadsOnly.run {trace : StateM σ Trace} (h : ReadsOnly reads trace) (start : σ) :
    ∀ id ∈ (trace.run start).1.reads, reads id := by
  classical
  have hAll := h Bool (fun t => return decide (∀ id ∈ t.reads, reads id)) (fun _ => return true)
    fun t ht => by rw [decide_eq_true ht]
  have hStart := congrArg (fun run => (run start).1) hAll
  exact of_decide_eq_true hStart

/-- Where the first run reads nothing that is bound otherwise in the second, the second run is the
same. -/
def AgreesWhereRead (bindings bindings' : Bindings) (trace trace' : StateM σ Trace) : Prop :=
  ∀ start, (∀ id ∈ (trace.run start).1.reads, bindings id = bindings' id) →
    trace'.run start = trace.run start

/-- Agreeing where the first run reads is kept by every step. An argument that is bound otherwise is
not read, so both runs go on with the same value. -/
theorem keptBySteps_agreesWhereRead (env : Environment (StateM σ)) (bindings : Bindings) :
    KeptBySteps env bindings reads (AgreesWhereRead env.bindings bindings) where
  text _ _ _ := rfl
  append {first first' second second'} hFirst hSecond start h := by
    have hReads : ∀ id ∈ (first.run start).1.reads ++
        (second.run (first.run start).2).1.reads, env.bindings id = bindings id := h
    obtain ⟨hReadFirst, hReadSecond⟩ := List.forall_mem_append.mp hReads
    change (((first'.run start).1.append (second'.run (first'.run start).2).1),
      (second'.run (first'.run start).2).2) = _
    rw [hFirst start hReadFirst, hSecond _ hReadSecond]
    rfl
  read {id next next'} _ hNext start h := by
    have hReads : ∀ x ∈ id :: ((next (env.bindings id)).run start).1.reads,
        env.bindings x = bindings x := h
    obtain ⟨hId, hReadNext⟩ := List.forall_mem_cons.mp hReads
    change (((next' (bindings id)).run start).1.afterReading id,
      ((next' (bindings id)).run start).2) = _
    rw [← hId, hNext _ start hReadNext]
    rfl
  category hNext start h := hNext _ _ h

end

theorem Trace.missing_eq_nil_iff {bindings : Bindings} {trace : Trace} :
    trace.missing bindings = [] ↔ ∀ id ∈ trace.reads, (bindings id).isSome = true := by
  simp only [missing, List.eq_nil_iff_forall_not_mem, List.mem_eraseDups, List.mem_filter, not_and,
    Option.isNone_iff_eq_none, ← Option.isSome_iff_ne_none]

theorem Trace.answer_of_bound {bindings : Bindings} {trace : Trace}
    (h : ∀ id ∈ trace.reads, (bindings id).isSome = true) (strict : Bool) :
    trace.answer bindings strict = .ok trace.text := by
  rw [answer, missing_eq_nil_iff.mpr h]
  simp

/-- Bindings that agree on what has been read give the same answer, also where something
is missing. -/
theorem Trace.answer_congr {bindings bindings' : Bindings} {trace : Trace}
    (h : ∀ id ∈ trace.reads, bindings id = bindings' id) (strict : Bool) :
    trace.answer bindings' strict = trace.answer bindings strict := by
  have hUnbound : ∀ id ∈ trace.reads, (bindings' id).isNone = (bindings id).isNone :=
    fun id hId => by rw [h id hId]
  have hMissing : trace.missing bindings' = trace.missing bindings := by
    rw [missing, missing, List.filter_congr hUnbound]
  rw [answer, answer, hMissing]

/-- The list of a message's arguments has all that its run can read. With all of them bound a
strict message is written, and two runs differ only by the arguments that the first one reads. -/
theorem format_reads_argumentIds {σ : Type} (message : Message) (locale : String) (strict : Bool)
    (formatters : Formatters (StateM σ)) (bindings : Bindings) (start : σ) :
    let trace := (((Operation.ofMessage message).trace ⟨bindings, locale, formatters⟩).run start).1
    let format (strict : Bool) (bindings : Bindings) :=
      ((CompiledMessage.ofMessage message ⟨locale, strict, formatters⟩).format bindings).run start
    (∀ id ∈ trace.reads, id ∈ message.argumentIds) ∧
      ((∀ id ∈ message.argumentIds, (bindings id).isSome = true) →
        (format true bindings).1 = .ok trace.text) ∧
      (∀ bindings', (∀ id ∈ trace.reads, bindings id = bindings' id) →
        format strict bindings' = format strict bindings) ∧
      ∀ bindings', (∀ id ∈ message.argumentIds, bindings id = bindings' id) →
        format strict bindings' = format strict bindings := by
  intro trace format
  have hUses := Operation.uses_ofMessage (uses_argumentIds message)
  have hFormat (strict : Bool) (bindings : Bindings) : format strict bindings =
      ((fun t => t.answer bindings strict) <$>
        (Operation.ofMessage message).trace ⟨bindings, locale, formatters⟩).run start :=
    congrArg (·.run start) (format_eq_answer message ⟨locale, strict, formatters⟩ bindings)
  have hReads : ∀ id ∈ trace.reads, id ∈ message.argumentIds :=
    (hUses.readsOnly_trace ⟨bindings, locale, formatters⟩).run start
  have hSame (bindings' : Bindings) (hAgree : ∀ id ∈ trace.reads, bindings id = bindings' id) :
      format strict bindings' = format strict bindings := by
    have hTrace : ((Operation.ofMessage message).trace ⟨bindings', locale, formatters⟩).run start =
        ((Operation.ofMessage message).trace ⟨bindings, locale, formatters⟩).run start :=
      hUses.related (keptBySteps_agreesWhereRead ⟨bindings, locale, formatters⟩ bindings') start
        hAgree
    rw [hFormat, hFormat, StateT.run_map, StateT.run_map, hTrace]
    exact congrArg (·, _) (Trace.answer_congr hAgree strict)
  refine ⟨hReads, ?_, hSame, ?_⟩
  · intro hBound
    rw [hFormat]
    exact Trace.answer_of_bound (fun id hId => hBound id (hReads id hId)) true
  · intro bindings' hAgree
    exact hSame bindings' fun id hId => hAgree id (hReads id hId)

/-- The branch for another value of `g` and the argument in it are neither read nor missed, and the
category is asked for once in either run. -/
theorem format_reads_argumentIds_nested :
    ((CompiledMessage.ofMessage
      [.select "g" [⟨"x", [.argument "y"]⟩,
        ⟨"other", [.plural "n" false 1 [⟨"other", [.pound]⟩]]⟩]]
      (⟨"en", true, ⟨fun _ _ _ => do modify (· + 1); return .other, fun n _ _ => n.text,
        fun _ _ _ _ => ""⟩⟩ : CompileOptions (StateM Nat))).format
      (.ofList [("g", .string "z"), ("n", .number 5), ("y", .number 7)])).run 0 = (.ok "4", 1) := by
  obtain ⟨_, _, hSame, _⟩ := format_reads_argumentIds
    [.select "g" [⟨"x", [.argument "y"]⟩,
      ⟨"other", [.plural "n" false 1 [⟨"other", [.pound]⟩]]⟩]] "en" true
    (⟨fun _ _ _ => do modify (· + 1); return .other, fun n _ _ => n.text, fun _ _ _ _ => ""⟩ :
      Formatters (StateM Nat)) (.ofList [("g", .string "z"), ("n", .number 5)]) 0
  exact (hSame (.ofList [("g", .string "z"), ("n", .number 5), ("y", .number 7)])
    (by decide)).trans rfl

end LocaleMessage
