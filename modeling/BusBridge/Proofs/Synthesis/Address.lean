/-
This file proves that calls are addressed without ambiguity: a subject and an endpoint name one
interface, one method and one list of erased parameter types.
-/

import Mathlib.Data.List.Forall2
import BusBridge.Proofs.Java.Erasure
import BusBridge.Proofs.Java.ReferenceLanguage
import BusBridge.Proofs.Model.Build
import BusBridge.Proofs.Text.Segments
import BusBridge.Synthesis.Context

namespace BusBridge

namespace Java.DeclaredType

open TypeReference (continuesName symbols)

/-- A colon separates the parts of an endpoint, and none of them has one. -/
theorem colon_not_mem_erasure {type : DeclaredType} (accepted : isTypeReference type.name = true) :
    ':' ∉ type.erasure.toList := by
  obtain ⟨cut, read, -⟩ := (TypeReference.isTypeReference_iff _).1 accepted
  have spelled := (TypeReference.tokens_eq_ok_iff _ _).1 read
  have foreign : continuesName ':' = false ∧ ':' ∉ symbols ∧ Character.isBlank ':' = false := by
    decide
  intro member
  rw [erasure, String.toList_ofList] at member
  rcases spelled.character_mem ((eraseArguments_sublist 0 _).mem member) with
    named | known | blank
  · rw [foreign.1] at named
    cases named
  · exact foreign.2.1 known
  · rw [foreign.2.2] at blank
    cases blank

end Java.DeclaredType

namespace MethodModel

/-- What an endpoint keeps of the parameters. -/
def erasures (method : MethodModel) : List String :=
  method.parameters.map fun parameter => parameter.type.erasure

/-- The segments of an endpoint are the name and the erasures. -/
theorem IsChecked.split_endpoint {method : MethodModel} (checked : method.IsChecked) :
    Text.split ':' method.endpoint = method.name :: method.erasures ++ [""] := by
  have plain : ∀ text ∈ method.name :: method.erasures, ':' ∉ text.toList := by
    rw [List.forall_mem_cons]
    refine ⟨Java.not_mem_of_isIdentifier checked.name (by decide), fun text member => ?_⟩
    obtain ⟨parameter, inside, rfl⟩ := List.mem_map.1 member
    exact Java.DeclaredType.colon_not_mem_erasure (checked.parameters parameter inside).type
  have ended : method.endpoint =
      String.join ((method.name :: method.erasures).map (· ++ String.singleton ':')) := by
    rw [endpoint, erasures, List.map_cons, List.map_map, String.join_cons]
    rfl
  rw [ended, Text.split_join plain]

/-- Methods have one endpoint exactly when their names and the erasures of their parameters are
the same. -/
theorem endpoint_eq_iff {first second : MethodModel} (checked : first.IsChecked)
    (checkedToo : second.IsChecked) :
    first.endpoint = second.endpoint ↔
      first.name = second.name ∧ first.erasures = second.erasures := by
  have parts : Text.split ':' first.endpoint = Text.split ':' second.endpoint ↔
      first.endpoint = second.endpoint := Text.split_inj
  rw [← parts, checked.split_endpoint, checkedToo.split_endpoint, List.cons_append,
    List.cons_append, List.cons.injEq, List.append_cancel_right_eq]

end MethodModel

namespace Synthesis

/-- The subject and the endpoint under which a method of an interface is called. -/
def address (interface : TypeModel) (method : MethodModel) : String × String :=
  (callSubject interface.name, method.endpoint)

/-- Methods of models that were built are called under one address exactly when their interfaces
have one name, they have one name, and their parameters have the same erasures place by place. -/
theorem address_eq_iff {builder other : ModelBuilder} {strategy otherStrategy : Strategy}
    {declaration otherDeclaration : TypeDeclaration} {first second : TypeModel}
    (built : builder.build strategy declaration = .ok first)
    (builtToo : other.build otherStrategy otherDeclaration = .ok second)
    {method otherMethod : MethodModel} (member : method ∈ first.methods)
    (memberToo : otherMethod ∈ second.methods) :
    address first method = address second otherMethod ↔
      first.name = second.name ∧ method.name = otherMethod.name ∧
        List.Forall₂ (fun parameter other => parameter.type.erasure = other.type.erasure)
          method.parameters otherMethod.parameters := by
  have checked := (ModelBuilder.isChecked_build built).methods method member
  have checkedToo := (ModelBuilder.isChecked_build builtToo).methods otherMethod memberToo
  rw [address, address, Prod.mk.injEq, callSubject, callSubject, String.append_left_inj,
    MethodModel.endpoint_eq_iff checked checkedToo, MethodModel.erasures, MethodModel.erasures,
    ← List.forall₂_eq_eq_eq, List.forall₂_map_left_iff, List.forall₂_map_right_iff]

deriving instance DecidableEq for ParameterModel, MethodModel, TypeModel

/-- An interface that is notified of some items and of their count, which has no name. -/
def notified (items : String) : TypeDeclaration where
  name := "shop.Orders"
  kind := .interfaceType
  annotations := []
  methods := [{
    name := "notify"
    returnType := "void"
    annotations := []
    parameters := [⟨some "items", items, []⟩, ⟨none, "int", []⟩] }]

def notifyMethod (items : String) : MethodModel where
  name := "notify"
  returnType := ⟨"void"⟩
  annotations := []
  parameters := [⟨"items", ⟨items⟩, [], .empty⟩, ⟨"a1", ⟨"int"⟩, [], .empty⟩]

def notifiedModel (items : String) : TypeModel :=
  ⟨"shop.Orders", true, [], [notifyMethod items]⟩

/-- Type arguments and white space leave an address as it is, and brackets do not. -/
theorem address_notified :
    ModelBuilder.build ⟨[]⟩ .rpcProxy (notified "shop.Bag<shop.Item>") =
        .ok (notifiedModel "shop.Bag<shop.Item>") ∧
      ModelBuilder.build ⟨[]⟩ .observerSubscription (notified "shop.Bag < ? >") =
        .ok (notifiedModel "shop.Bag < ? >") ∧
      ModelBuilder.build ⟨[]⟩ .rpcProxy (notified "shop.Bag[]") =
        .ok (notifiedModel "shop.Bag[]") ∧
      address (notifiedModel "shop.Bag<shop.Item>") (notifyMethod "shop.Bag<shop.Item>") =
        address (notifiedModel "shop.Bag < ? >") (notifyMethod "shop.Bag < ? >") ∧
      address (notifiedModel "shop.Bag<shop.Item>") (notifyMethod "shop.Bag<shop.Item>") ≠
        address (notifiedModel "shop.Bag[]") (notifyMethod "shop.Bag[]") := by
  have generic : ModelBuilder.build ⟨[]⟩ .rpcProxy (notified "shop.Bag<shop.Item>") =
      .ok (notifiedModel "shop.Bag<shop.Item>") := by
    decide +kernel
  have wildcard : ModelBuilder.build ⟨[]⟩ .observerSubscription (notified "shop.Bag < ? >") =
      .ok (notifiedModel "shop.Bag < ? >") := by
    decide +kernel
  have array : ModelBuilder.build ⟨[]⟩ .rpcProxy (notified "shop.Bag[]") =
      .ok (notifiedModel "shop.Bag[]") := by
    decide +kernel
  refine ⟨generic, wildcard, array, ?_, ?_⟩
  · exact (address_eq_iff generic wildcard List.mem_cons_self List.mem_cons_self).2
      ⟨rfl, rfl, by decide⟩
  · refine mt (address_eq_iff generic array List.mem_cons_self List.mem_cons_self).1 ?_
    rintro ⟨-, -, alike⟩
    exact absurd alike (by decide)

end Synthesis

end BusBridge
