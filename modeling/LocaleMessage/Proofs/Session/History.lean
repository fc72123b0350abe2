import Mathlib
import LocaleMessage.Proofs.Compiled.Arguments
import LocaleMessage.Proofs.Plural.Cache
import LocaleMessage.Session

/-! Sessions told from their calls alone. What a call answers is found by looking back for the last
call that set, built or compiled what it needs, and by making that anew with no rules kept. A
session that keeps all of it answers the same: neither the rules that were kept or given up nor a
default locale that was set later can be told from its answers. -/
namespace LocaleMessage

open Plural (RuleCache)

/-- Collaborators whose categories are the same whichever rules are kept, as those are that come to
the rules only by looking categories up. -/
def Formatters.Steady (formatters : Formatters (StateM RuleCache)) : Prop :=
  ∀ n locale type, RuleCache.Steady (formatters.category n locale type)

theorem Formatters.steady_cached : cached.Steady :=
  RuleCache.steady_category

/-- Steadiness is kept by every step of a run, as long as its categories are steady. -/
theorem keptBySteps_steady {env : Environment (StateM RuleCache)} (h : env.formatters.Steady)
    (reads : String → Prop) :
    KeptBySteps env env.bindings reads fun trace _ => RuleCache.Steady trace where
  text text := .pure (⟨text, []⟩ : Trace)
  append hFirst hSecond := hFirst.bind fun _ => hSecond.bind fun _ => .pure _
  read _ hNext := (hNext _).map _
  category hNext := (h _ _ _).bind hNext

/-- A compiled message is steady whatever it reads, whether it is strict or not. -/
theorem CompiledMessage.steady_format (message : Message)
    (options : CompileOptions (StateM RuleCache)) (h : options.formatters.Steady)
    (bindings : Bindings) :
    RuleCache.Steady ((ofMessage message options).format bindings) := by
  have hUses := Operation.uses_ofMessage (uses_argumentIds message)
  rw [format_eq_answer]
  exact RuleCache.Steady.map _ (hUses.related (keptBySteps_steady h _))

namespace Session

/-- What a run comes to with no rules kept. -/
def fresh {α : Type} (run : StateM RuleCache α) : α :=
  (run.run .empty).1

/-- Of what calls made, the latest. Calls stand in a list with the latest first, and each may look
back at those before it. -/
def latest? {α : Type} (made : Call → List Call → Option α) : List Call → Option α
  | [] => none
  | call :: earlier => (made call earlier).or (latest? made earlier)

def localeSet (call : Call) (_ : List Call) : Option String :=
  match call with
  | .setDefaultLocale locale => some locale
  | _ => none

/-- The default locale, English unless another was set. -/
def localeAfter (calls : List Call) : String :=
  (latest? localeSet calls).getD "en"

/-- Options that are asked for after some calls: without a locale of their own they have the
default locale of that time. -/
def requested (calls : List Call) (locale : Option String) (strict : Bool)
    (formatters : Formatters (StateM RuleCache)) : CompileOptions (StateM RuleCache) :=
  ⟨locale.getD (localeAfter calls), strict, formatters⟩

/-- The options that a call builds under a name, with the default locale of that time where none is
asked for. -/
def optionsBuilt (name : String) (call : Call) (earlier : List Call) :
    Option (CompileOptions (StateM RuleCache)) :=
  match call with
  | .buildOptions name' locale strict formatters =>
    if name' = name then some (requested earlier locale strict formatters) else none
  | _ => none

/-- A pattern that cannot be read builds nothing. -/
def messageBuilt (name : String) (call : Call) (earlier : List Call) :
    Option (Template (StateM RuleCache)) :=
  match call with
  | .build name' pattern locale strict formatters =>
    if name' = name then
      (Template.build pattern (requested earlier locale strict formatters)).toOption
    else none
  | _ => none

/-- Without options nothing is compiled. -/
def messageCompiled (name : String) (call : Call) (earlier : List Call) :
    Option (CompiledMessage (StateM RuleCache)) :=
  match call with
  | .compile name' message options =>
    if name' = name then
      (latest? (optionsBuilt options) earlier).map (CompiledMessage.ofMessage message)
    else none
  | _ => none

/-- What a call answers behind earlier ones: what it needs is made as the latest call for it made
it, and no rules are kept. -/
def answer (earlier : List Call) : Call → Answer
  | .setDefaultLocale locale => .defaultLocale locale
  | .defaultLocale => .defaultLocale (localeAfter earlier)
  | .build _ pattern locale strict formatters =>
    match Template.build pattern (requested earlier locale strict formatters) with
    | .error e => .syntaxError e
    | .ok message => describe message
  | .info name =>
    match latest? (messageBuilt name) earlier with
    | some message => describe message
    | none => .unknownMessage
  | .format name bindings =>
    match latest? (messageBuilt name) earlier with
    | some message => .result (fresh (message.format bindings))
    | none => .unknownMessage
  | .recompile name bindings =>
    match latest? (messageBuilt name) earlier with
    | some message =>
      let compiled := CompiledMessage.ofMessage message.message (requested earlier none false .cached)
      .recompiled (localeAfter earlier) false (fresh (compiled.format bindings))
    | none => .unknownMessage
  | .category n locale type => .category (fresh (RuleCache.category n locale type))
  | .buildOptions _ locale strict formatters =>
    .held (requested earlier locale strict formatters).locale strict
  | .compile _ _ options =>
    match latest? (optionsBuilt options) earlier with
    | some options => .held options.locale options.strict
    | none => .unknownOptions
  | .formatCompiled name bindings =>
    match latest? (messageCompiled name) earlier with
    | some message => .result (fresh (message.format bindings))
    | none => .unknownMessage

/-- What calls answer in order, behind earlier ones. No session is needed for this. -/
def answers (earlier : List Call) : List Call → List Answer
  | [] => []
  | call :: rest => answer earlier call :: answers (call :: earlier) rest

/-- Calls that bring along no collaborators but steady ones. All other calls are steady. -/
def Call.Steady : Call → Prop
  | .build _ _ _ _ formatters | .buildOptions _ _ _ formatters => formatters.Steady
  | _ => True

/-- What holds of all that steady calls make holds of the latest. Earlier ones need not be looked
at. -/
theorem forall_latest? {α : Type} {p : α → Prop} {made : Call → List Call → Option α}
    (hMade : ∀ call earlier, (∀ c ∈ call :: earlier, c.Steady) → ∀ a ∈ made call earlier, p a)
    {calls : List Call} (h : ∀ call ∈ calls, call.Steady) : ∀ a ∈ latest? made calls, p a := by
  induction calls with
  | nil => simp [latest?]
  | cons call earlier ih =>
      intro a hLatest
      rw [latest?, Option.mem_def, Option.or_eq_some_iff] at hLatest
      rcases hLatest with hNow | ⟨_, hBefore⟩
      · exact hMade call earlier h a hNow
      · exact ih (fun c hMem => h c (List.mem_cons_of_mem call hMem)) a hBefore

variable {calls : List Call} (hSteady : ∀ call ∈ calls, call.Steady)
include hSteady

theorem steady_options (name : String) :
    ∀ options ∈ latest? (optionsBuilt name) calls, options.formatters.Steady := by
  refine forall_latest? (fun call earlier h options hBuilt => ?_) hSteady
  cases call with
  | buildOptions name' locale strict formatters =>
      simp only [optionsBuilt] at hBuilt
      split_ifs at hBuilt
      · obtain rfl : requested earlier locale strict formatters = options := by simpa using hBuilt
        exact h _ List.mem_cons_self
      · simp at hBuilt
  | _ => simp [optionsBuilt] at hBuilt

theorem steady_message (name : String) : ∀ message ∈ latest? (messageBuilt name) calls,
    ∀ bindings, RuleCache.Steady (message.format bindings) := by
  refine forall_latest? (fun call earlier h message hBuilt bindings => ?_) hSteady
  cases call with
  | build name' pattern locale strict formatters =>
      simp only [messageBuilt] at hBuilt
      split_ifs at hBuilt
      · cases hTemplate : Template.build pattern (requested earlier locale strict formatters) with
        | error e => simp [hTemplate, Except.toOption] at hBuilt
        | ok template =>
            obtain rfl : template = message := by simpa [hTemplate, Except.toOption] using hBuilt
            have hFormatters : (requested earlier locale strict formatters).formatters.Steady :=
              h _ List.mem_cons_self
            rw [Template.format, compiled_of_build hTemplate]
            exact CompiledMessage.steady_format _ _ hFormatters bindings
      · simp at hBuilt
  | _ => simp [messageBuilt] at hBuilt

theorem steady_compiled (name : String) : ∀ message ∈ latest? (messageCompiled name) calls,
    ∀ bindings, RuleCache.Steady (message.format bindings) := by
  refine forall_latest? (fun call earlier h message hCompiled bindings => ?_) hSteady
  cases call with
  | compile name' source options =>
      simp only [messageCompiled] at hCompiled
      split_ifs at hCompiled
      · obtain ⟨found, hFound, rfl⟩ := Option.map_eq_some_iff.mp hCompiled
        have hEarlier : ∀ c ∈ earlier, c.Steady := fun c hMem => h c (List.mem_cons_of_mem _ hMem)
        exact CompiledMessage.steady_format _ _ (steady_options hEarlier options found hFound) bindings
      · simp at hCompiled
  | _ => simp [messageCompiled] at hCompiled

omit hSteady

theorem lookup_keep {α : Type} (name : String) (value : α) (kept : List (String × α))
    (other : String) : (keep name value kept).lookup other =
      (if name = other then some value else none).or (kept.lookup other) := by
  unfold keep
  induction kept with
  | nil => grind [List.lookup]
  | cons first rest ih => grind [List.lookup]

/-- A session that has kept what the calls made last, and only rules that are right. Which rules are
kept is left open. -/
structure Recalls (session : Session) (calls : List Call) : Prop where
  defaultLocale : session.defaultLocale = localeAfter calls
  messages : ∀ name, session.messages.lookup name = latest? (messageBuilt name) calls
  options : ∀ name, session.options.lookup name = latest? (optionsBuilt name) calls
  compiled : ∀ name, session.compiled.lookup name = latest? (messageCompiled name) calls
  sound : session.cache.Sound

theorem recalls_start : start.Recalls [] where
  defaultLocale := rfl
  messages _ := rfl
  options _ := rfl
  compiled _ := rfl
  sound := RuleCache.sound_empty

variable {session : Session}

/-- A call that makes nothing for later ones to look back for. -/
structure Call.Idle (call : Call) (earlier : List Call) : Prop where
  locale : localeSet call earlier = none
  message : ∀ name, messageBuilt name call earlier = none
  options : ∀ name, optionsBuilt name call earlier = none
  compiled : ∀ name, messageCompiled name call earlier = none

namespace Recalls

/-- A call that makes nothing leaves everything as it is recalled. It may still have changed which
rules are kept. -/
theorem idle (h : session.Recalls calls) {call : Call} (hIdle : call.Idle calls) :
    session.Recalls (call :: calls) where
  defaultLocale := by
    rw [localeAfter, latest?, hIdle.locale, Option.none_or, h.defaultLocale, localeAfter]
  messages name := by rw [latest?, hIdle.message, Option.none_or, h.messages]
  options name := by rw [latest?, hIdle.options, Option.none_or, h.options]
  compiled name := by rw [latest?, hIdle.compiled, Option.none_or, h.compiled]
  sound := h.sound

/-- A run over the rules that a session has kept comes to the same as with none, and leaves
everything as it is recalled. -/
theorem withCache (h : session.Recalls calls) {call : Call} (hIdle : call.Idle calls) {α : Type}
    {run : StateM RuleCache α} (hRun : RuleCache.Steady run) :
    (session.withCache run).1 = fresh run ∧ (session.withCache run).2.Recalls (call :: calls) :=
  ⟨hRun.result session.cache h.sound,
    { h.idle hIdle with sound := hRun.sound session.cache h.sound }⟩

theorem requested_eq (h : session.Recalls calls) (locale : Option String) (strict : Bool)
    (formatters : Formatters (StateM RuleCache)) :
    (⟨locale.getD session.defaultLocale, strict, formatters⟩ : CompileOptions _) =
      requested calls locale strict formatters := by
  rw [requested, h.defaultLocale]

/-- A call is answered as its history has it, and adds to that history what it makes. -/
theorem step (h : session.Recalls calls) (hSteady : ∀ call ∈ calls, call.Steady) (call : Call) :
    (session.step call).1 = answer calls call ∧
      (session.step call).2.Recalls (call :: calls) := by
  cases call with
  | setDefaultLocale locale => exact ⟨rfl, { h with defaultLocale := rfl }⟩
  | defaultLocale =>
      refine ⟨?_, h.idle ⟨rfl, fun _ => rfl, fun _ => rfl, fun _ => rfl⟩⟩
      rw [Session.step, answer, h.defaultLocale]
  | build name pattern locale strict formatters =>
      simp only [Session.step, answer, h.requested_eq]
      cases hBuild : Template.build pattern (requested calls locale strict formatters) with
      | error e =>
          refine ⟨rfl, h.idle ⟨rfl, fun name' => ?_, fun _ => rfl, fun _ => rfl⟩⟩
          simp [messageBuilt, hBuild, Except.toOption]
      | ok message =>
          refine ⟨rfl, { h with messages := fun name' => ?_ }⟩
          simp only [lookup_keep, h.messages, latest?, messageBuilt, hBuild, Except.toOption]
  | info name =>
      have hIdle : (Call.info name).Idle calls := ⟨rfl, fun _ => rfl, fun _ => rfl, fun _ => rfl⟩
      simp only [Session.step, answer, h.messages]
      cases latest? (messageBuilt name) calls <;> exact ⟨rfl, h.idle hIdle⟩
  | format name bindings =>
      have hIdle : (Call.format name bindings).Idle calls :=
        ⟨rfl, fun _ => rfl, fun _ => rfl, fun _ => rfl⟩
      simp only [Session.step, answer, h.messages]
      cases hMessage : latest? (messageBuilt name) calls with
      | none => exact ⟨rfl, h.idle hIdle⟩
      | some message =>
          obtain ⟨hResult, hRecalls⟩ :=
            h.withCache hIdle (steady_message hSteady name message hMessage bindings)
          exact ⟨congrArg Answer.result hResult, hRecalls⟩
  | recompile name bindings =>
      have hIdle : (Call.recompile name bindings).Idle calls :=
        ⟨rfl, fun _ => rfl, fun _ => rfl, fun _ => rfl⟩
      simp only [Session.step, answer, requested, h.messages, h.defaultLocale]
      cases latest? (messageBuilt name) calls with
      | none => exact ⟨rfl, h.idle hIdle⟩
      | some message =>
          obtain ⟨hResult, hRecalls⟩ := h.withCache hIdle
            (CompiledMessage.steady_format message.message
              ⟨localeAfter calls, false, .cached⟩ Formatters.steady_cached bindings)
          exact ⟨congrArg (Answer.recompiled _ _) hResult, hRecalls⟩
  | category n locale type =>
      obtain ⟨hResult, hRecalls⟩ := h.withCache
        (⟨rfl, fun _ => rfl, fun _ => rfl, fun _ => rfl⟩ : (Call.category n locale type).Idle calls)
        (RuleCache.steady_category n locale type)
      exact ⟨congrArg Answer.category hResult, hRecalls⟩
  | buildOptions name locale strict formatters =>
      simp only [Session.step, answer, h.requested_eq]
      refine ⟨by rw [← h.requested_eq], { h with options := fun name' => ?_ }⟩
      simp only [lookup_keep, h.options, latest?, optionsBuilt]
  | compile name message options =>
      simp only [Session.step, answer, h.options]
      cases hOptions : latest? (optionsBuilt options) calls with
      | none =>
          refine ⟨rfl, h.idle ⟨rfl, fun _ => rfl, fun _ => rfl, fun name' => ?_⟩⟩
          simp [messageCompiled, hOptions]
      | some found =>
          refine ⟨rfl, { h with compiled := fun name' => ?_ }⟩
          simp only [lookup_keep, h.compiled, latest?, messageCompiled, hOptions, Option.map_some]
  | formatCompiled name bindings =>
      have hIdle : (Call.formatCompiled name bindings).Idle calls :=
        ⟨rfl, fun _ => rfl, fun _ => rfl, fun _ => rfl⟩
      simp only [Session.step, answer, h.compiled]
      cases hMessage : latest? (messageCompiled name) calls with
      | none => exact ⟨rfl, h.idle hIdle⟩
      | some message =>
          obtain ⟨hResult, hRecalls⟩ :=
            h.withCache hIdle (steady_compiled hSteady name message hMessage bindings)
          exact ⟨congrArg Answer.result hResult, hRecalls⟩

end Recalls

/-- Behind any calls a session goes on as its history does, by induction on the calls that
follow. -/
theorem Recalls.run {earlier calls : List Call} (h : session.Recalls earlier)
    (hSteady : ∀ call ∈ earlier ++ calls, call.Steady) :
    (session.run calls).1 = answers earlier calls ∧
      (session.run calls).2.Recalls (calls.reverse ++ earlier) := by
  induction calls generalizing session earlier with
  | nil => exact ⟨rfl, h⟩
  | cons call rest ih =>
      obtain ⟨hEarlier, hCalls⟩ := List.forall_mem_append.mp hSteady
      obtain ⟨hCall, hRest⟩ := List.forall_mem_cons.mp hCalls
      have hBehind : ∀ c ∈ call :: earlier ++ rest, c.Steady :=
        List.forall_mem_append.mpr ⟨List.forall_mem_cons.mpr ⟨hCall, hEarlier⟩, hRest⟩
      obtain ⟨hAnswer, hStep⟩ := h.step hEarlier call
      obtain ⟨hAnswers, hRecalls⟩ := ih hStep hBehind
      refine ⟨?_, ?_⟩
      · rw [Session.run, answers, ← hAnswer, ← hAnswers]
      · rw [List.reverse_cons, List.append_assoc, List.singleton_append]
        exact hRecalls

/-- Every call is answered as if it were made with no rules kept, by what the latest calls for it
have built or compiled, with the locale that was asked for there or else the default locale of that
time. The rules that are kept are within their bounds, one set for each key, and the key's own. -/
theorem run_eq_answers {calls : List Call} (h : ∀ call ∈ calls, call.Steady) :
    (start.run calls).1 = answers [] calls ∧ (start.run calls).2.cache.Sound := by
  obtain ⟨hAnswers, hRecalls⟩ := recalls_start.run h
  exact ⟨hAnswers, hRecalls.sound⟩

/-- Options that were built before a default locale was set keep the older one, and so does what is
compiled with them later. -/
theorem run_eq_answers_reset :
    let message : Message := [.plural "n" false 0 [⟨"few", [.pound, .literal " few"]⟩,
      ⟨"other", [.pound, .literal " other"]⟩]]
    let two : Bindings := Bindings.empty.insert "n" (.number 2)
    let echo : Formatters (StateM RuleCache) :=
      ⟨fun _ _ _ => pure .few, fun n locale _ => locale ++ n.text, fun _ _ _ _ => ""⟩
    (start.run [.buildOptions "a" none true .cached, .setDefaultLocale "ru",
      .compile "first" message "a", .category (.integer 2) "ru" .cardinal,
      .formatCompiled "first" two, .buildOptions "a" none true .cached, .setDefaultLocale "de",
      .compile "second" message "a", .buildOptions "b" (some "fr") false echo,
      .compile "third" message "b", .formatCompiled "second" two, .formatCompiled "first" two,
      .formatCompiled "third" two]).1 =
        [.held "en" true, .defaultLocale "ru", .held "en" true, .category .few,
          .result (.ok "2 other"), .held "ru" true, .defaultLocale "de", .held "ru" true,
          .held "fr" false, .held "fr" false, .result (.ok "2 few"), .result (.ok "2 other"),
          .result (.ok "fr2 few")] := by
  intro message two echo
  have hEcho : echo.Steady := fun _ _ _ => .pure PluralCategory.few
  refine (run_eq_answers ?_).1.trans (by cbv)
  simp only [List.forall_mem_cons, Call.Steady, Formatters.steady_cached, hEcho]
  simp

end Session

end LocaleMessage
