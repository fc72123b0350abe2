import LocaleMessage.Template
import LocaleMessage.Plural.Cache

/-!
Sessions: calls one after the other, with a default locale, options and messages under names, and
plural rules that are kept.
-/

namespace LocaleMessage

/-- The usual collaborators, with plural rules that are kept. -/
def Formatters.cached : Formatters (StateM Plural.RuleCache) where
  category := Plural.RuleCache.category
  number := NumberFormat.format
  dateTime := DateFormat.format

structure Session where
  defaultLocale : String
  cache : Plural.RuleCache
  messages : List (String × Template (StateM Plural.RuleCache))
  /-- Options for messages that are compiled later. -/
  options : List (String × CompileOptions (StateM Plural.RuleCache))
  /-- Messages that were compiled with such options. -/
  compiled : List (String × CompiledMessage (StateM Plural.RuleCache))

namespace Session

def start : Session := ⟨"en", .empty, [], [], []⟩

/-- What can be asked of a session. -/
inductive Call where
  | setDefaultLocale (locale : String)
  | defaultLocale
  /-- Builds a message and keeps it under a name, for the default locale unless there is
  another. -/
  | build (name pattern : String) (locale : Option String) (strict : Bool)
      (formatters : Formatters (StateM Plural.RuleCache))
  | info (name : String)
  | format (name : String) (bindings : Bindings)
  /-- Compiles a message once more for the default locale and writes it. -/
  | recompile (name : String) (bindings : Bindings)
  | category (n : Number) (locale : String) (type : PluralType)
  /-- Builds options and keeps them under a name, for the default locale unless there is
  another. -/
  | buildOptions (name : String) (locale : Option String) (strict : Bool)
      (formatters : Formatters (StateM Plural.RuleCache))
  /-- Compiles a message with options that are kept, and keeps it under a name. -/
  | compile (name : String) (message : Message) (options : String)
  | formatCompiled (name : String) (bindings : Bindings)

/-- What a session answers. -/
inductive Answer where
  | defaultLocale (locale : String)
  | info (pattern locale : String) (strict : Bool) (ids : List String)
  | syntaxError (e : Pattern.SyntaxError)
  | unknownMessage
  | result (r : Except FormatError String)
  | recompiled (locale : String) (strict : Bool) (r : Except FormatError String)
  | category (c : PluralCategory)
  /-- What options or a compiled message hold. -/
  | held (locale : String) (strict : Bool)
  | unknownOptions

/-- Tells about a message. -/
def describe (message : Template (StateM Plural.RuleCache)) : Answer :=
  .info message.pattern message.compiled.locale message.compiled.strict
    message.message.argumentIds

/-- Keeps a value under a name, in the place of an older one. -/
def keep {α : Type} (name : String) (value : α) (kept : List (String × α)) : List (String × α) :=
  (name, value) :: kept.filter (·.1 ≠ name)

/-- Runs what uses the rules that are kept. -/
def withCache {α : Type} (session : Session) (run : StateM Plural.RuleCache α) : α × Session :=
  let (a, cache) := run.run session.cache
  (a, { session with cache })

/-- Answers a call. A pattern that cannot be read leaves an older message in its place. -/
def step (session : Session) : Call → Answer × Session
  | .setDefaultLocale locale =>
    (.defaultLocale locale, { session with defaultLocale := locale })
  | .defaultLocale => (.defaultLocale session.defaultLocale, session)
  | .build name pattern locale strict formatters =>
    let options := ⟨locale.getD session.defaultLocale, strict, formatters⟩
    match Template.build pattern options with
    | .error e => (.syntaxError e, session)
    | .ok message =>
      (describe message, { session with messages := keep name message session.messages })
  | .info name =>
    match session.messages.lookup name with
    | some message => (describe message, session)
    | none => (.unknownMessage, session)
  | .format name bindings =>
    match session.messages.lookup name with
    | some message =>
      let (result, session) := session.withCache (message.format bindings)
      (.result result, session)
    | none => (.unknownMessage, session)
  | .recompile name bindings =>
    match session.messages.lookup name with
    | some message =>
      let compiled := CompiledMessage.ofMessage message.message
        ⟨session.defaultLocale, false, .cached⟩
      let (result, session) := session.withCache (compiled.format bindings)
      (.recompiled compiled.locale compiled.strict result, session)
    | none => (.unknownMessage, session)
  | .category n locale type =>
    let (c, session) := session.withCache (Plural.RuleCache.category n locale type)
    (.category c, session)
  | .buildOptions name locale strict formatters =>
    let options : CompileOptions (StateM Plural.RuleCache) :=
      ⟨locale.getD session.defaultLocale, strict, formatters⟩
    (.held options.locale options.strict,
      { session with options := keep name options session.options })
  | .compile name message optionsName =>
    match session.options.lookup optionsName with
    | some options =>
      let compiled := CompiledMessage.ofMessage message options
      (.held compiled.locale compiled.strict,
        { session with compiled := keep name compiled session.compiled })
    | none => (.unknownOptions, session)
  | .formatCompiled name bindings =>
    match session.compiled.lookup name with
    | some compiled =>
      let (result, session) := session.withCache (compiled.format bindings)
      (.result result, session)
    | none => (.unknownMessage, session)

/-- Answers calls in order. -/
def run (session : Session) : List Call → List Answer × Session
  | [] => ([], session)
  | call :: rest =>
    let (answer, session) := session.step call
    let (answers, session) := session.run rest
    (answer :: answers, session)

end Session

end LocaleMessage
