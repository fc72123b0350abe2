import LocaleMessage.Json.Basic
import LocaleMessage.Pattern.Message

/-!
Messages as JSON.
-/

namespace LocaleMessage.Inspect

mutual

def elementTree : Element → Json
  | .literal text => .object [("literal", .string text)]
  | .argument id => .object [("argument", .object [("id", .string id)])]
  | .typed id kind style =>
    .object [("typed", .object [("id", .string id), ("kind", .string kind.text),
      ("style", Json.ofOption style)])]
  | .plural id ordinal offset options =>
    .object [("plural", .object [("id", .string id), ("ordinal", .bool ordinal),
      ("offset", Json.ofNat offset.toNat), ("options", .array (optionTrees options))])]
  | .select id options =>
    .object [("select", .object [("id", .string id), ("options", .array (optionTrees options))])]
  | .pound => .string "pound"

def elementTrees : List Element → List Json
  | [] => []
  | element :: rest => elementTree element :: elementTrees rest

def optionTrees : List (Branch (List Element)) → List Json
  | [] => []
  | ⟨selector, message⟩ :: rest =>
    .object [("selector", .string selector),
      ("message", .object [("elements", .array (elementTrees message))])] :: optionTrees rest

end

/-- A message as JSON. -/
def tree (message : Message) : Json :=
  .object [("elements", .array (elementTrees message))]

end LocaleMessage.Inspect
