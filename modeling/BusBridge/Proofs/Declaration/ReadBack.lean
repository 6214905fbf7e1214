/-
This file proves that a declaration is read back from the JSON that it is written as, in whatever
order the members of its objects come.
-/

import BusBridge.Declaration.Json
import BusBridge.Proofs.Json.ReadBack
import BusBridge.Proofs.NameMap
import Mathlib.Data.List.Nodup
import Mathlib.Data.List.Perm.Basic

namespace BusBridge

namespace Json

/-- A list is textual when each of its items is written so. -/
theorem areTextual_map {α : Type} {write : α → Json} (textual : ∀ item, (write item).isTextual)
    (items : List α) : areTextual (items.map write) := by
  induction items with
  | nil => rfl
  | cons item rest ih => simp only [List.map_cons, areTextual, textual, ih, Bool.and_self]

/-- The values differ in nothing but the order of members, at any depth. -/
inductive Rearranged : Json → Json → Prop where
  | same (value : Json) : Rearranged value value
  | array {items others : List Json} (each : List.Forall₂ Rearranged items others) :
      Rearranged (.array items) (.array others)
  | object {members matched others : List (String × Json)}
      (keys : members.map Prod.fst = matched.map Prod.fst)
      (each : List.Forall₂ Rearranged (members.map Prod.snd) (matched.map Prod.snd))
      (reordered : matched.Perm others) :
      Rearranged (.object members) (.object others)

namespace Rearranged

variable {value : Json} {items : List Json} {members : List (String × Json)}

/-- A text cannot be rearranged. -/
theorem eq_text {text : String} (rearranged : Rearranged (.text text) value) :
    value = .text text := by
  cases rearranged
  rfl

/-- The null value cannot be rearranged. -/
theorem eq_null (rearranged : Rearranged .null value) : value = .null := by
  cases rearranged
  rfl

/-- A truth value cannot be rearranged. -/
theorem eq_boolean {truth : Bool} (rearranged : Rearranged (.boolean truth) value) :
    value = .boolean truth := by
  cases rearranged
  rfl

/-- The items of an array keep their order, and each of them may be rearranged. -/
theorem exists_array (rearranged : Rearranged (.array items) value) :
    ∃ others, value = .array others ∧ List.Forall₂ Rearranged items others := by
  cases rearranged with
  | same => exact ⟨items, rfl, List.forall₂_same.2 fun item _ => .same item⟩
  | array each => exact ⟨_, rfl, each⟩

/-- The members of an object may change places, and their values may be rearranged. -/
theorem exists_object (rearranged : Rearranged (.object members) value) :
    ∃ matched others : List (String × Json), value = .object others ∧
      members.map Prod.fst = matched.map Prod.fst ∧
      List.Forall₂ Rearranged (members.map Prod.snd) (matched.map Prod.snd) ∧
      matched.Perm others := by
  cases rearranged with
  | same =>
      exact ⟨members, members, rfl, rfl, List.forall₂_same.2 fun member _ => .same member,
        .refl _⟩
  | object keys each reordered => exact ⟨_, _, rfl, keys, each, reordered⟩

end Rearranged

/-- An object without repeated keys is a record of these keys in any order. -/
theorem record?_of_perm {members others : List (String × Json)}
    (distinct : (members.map Prod.fst).Nodup) (reordered : members.Perm others) :
    (Json.object others).record? (members.map Prod.fst) =
      some ((members.map Prod.snd).map some) := by
  have alsoDistinct : (others.map Prod.fst).Nodup := (reordered.map Prod.fst).nodup_iff.1 distinct
  have once (field : String) : (others.filter fun member => member.1 == field).length ≤ 1 := by
    have counted := List.nodup_iff_count_le_one.1 alsoDistinct field
    rwa [List.count, List.countP_map, List.countP_eq_length_filter] at counted
  have found : (members.map Prod.fst).map (fun field => others.lookup field) =
      (members.map Prod.snd).map some := by
    rw [List.map_map, List.map_map]
    exact List.map_congr_left fun member inside =>
      NameMap.lookup_of_mem alsoDistinct (reordered.mem_iff.1 inside)
  rw [record?, recordIn?, found]
  simp [once, Dialect.ignores]

/-- The fields of a record are found whatever the order of its members. -/
theorem Rearranged.record? {members : List (String × Json)} {value : Json}
    (rearranged : Rearranged (.object members) value)
    (distinct : (members.map Prod.fst).Nodup) :
    ∃ values, value.record? (members.map Prod.fst) = some (values.map some) ∧
      List.Forall₂ Rearranged (members.map Prod.snd) values := by
  obtain ⟨matched, others, rfl, keys, each, reordered⟩ := rearranged.exists_object
  rw [keys] at distinct ⊢
  exact ⟨_, record?_of_perm distinct reordered, each⟩

/-- Items are read from an array when each of them is, in any order of its members. -/
theorem Rearranged.list? {α : Type} {write : α → Json} {read : Json → Option α} {items : List α}
    {value : Json} (readBack : ∀ item value, Rearranged (write item) value → read value = some item)
    (rearranged : Rearranged (.array (items.map write)) value) :
    list? read value = some items := by
  obtain ⟨others, rfl, each⟩ := rearranged.exists_array
  rw [Json.list?]
  clear rearranged
  induction items generalizing others with
  | nil =>
      cases each
      rfl
  | cons item rest ih =>
      cases each with
      | cons first following =>
          rw [List.mapM_cons, readBack item _ first, ih _ following]
          rfl

end Json

open Json (isTextual holdsTextual areTextual_map Rearranged)

/-- The members of an annotation hold no numbers. -/
theorem isTextual_namesToJson (members : NameMap String) : (namesToJson members).isTextual := by
  rw [namesToJson, isTextual]
  induction members.entries with
  | nil => rfl
  | cons entry rest ih =>
      simpa only [List.map_cons, holdsTextual, isTextual, Bool.true_and] using ih

/-- Texts are kept as they are, so that only the order of their members is open. -/
theorem exists_perm_of_texts {entries : List (String × String)} {value : Json}
    (rearranged : Rearranged (.object (entries.map fun entry => (entry.1, .text entry.2))) value) :
    ∃ found : List (String × String), found.Perm entries ∧
      value = .object (found.map fun entry => (entry.1, .text entry.2)) := by
  obtain ⟨matched, others, rfl, keys, each, reordered⟩ := rearranged.exists_object
  have texts : (entries.map fun entry => (entry.1, Json.text entry.2)).map Prod.snd =
      matched.map Prod.snd := by
    rw [List.map_map, List.forall₂_map_left_iff] at each
    rw [List.map_map, ← List.forall₂_eq_eq_eq, List.forall₂_map_left_iff]
    exact each.imp fun entry other same => same.eq_text.symm
  have unchanged : matched = entries.map fun entry => (entry.1, Json.text entry.2) :=
    (List.zip_of_prod keys.symm texts.symm).trans (List.zip_of_prod rfl rfl).symm
  subst unchanged
  have written : List.Forall₂ (fun member entry => member = (entry.1, Json.text entry.2))
      (entries.map fun entry => (entry.1, Json.text entry.2)) entries := by
    rw [List.forall₂_map_left_iff]
    exact List.forall₂_same.2 fun entry _ => rfl
  obtain ⟨found, kept, same⟩ := List.perm_comp_forall₂ reordered.symm written
  refine ⟨found, same, congrArg Json.object ?_⟩
  rwa [← List.forall₂_eq_eq_eq, List.forall₂_map_right_iff]

/-- The members of an annotation are read back in any order. -/
theorem namesOfJson?_of_rearranged {members : NameMap String} {value : Json}
    (rearranged : (namesToJson members).Rearranged value) :
    namesOfJson? value = some members := by
  obtain ⟨found, reordered, rfl⟩ := exists_perm_of_texts rearranged
  have read : (found.map fun entry => (entry.1, Json.text entry.2)).mapM
      (fun member => member.2.text?.map fun value => (member.1, value)) = some found := by
    clear reordered rearranged
    induction found with
    | nil => rfl
    | cons entry rest ih =>
        rw [List.map_cons, List.mapM_cons, ih]
        rfl
  rw [namesOfJson?, read]
  exact congrArg some (NameMap.ofList_of_perm reordered)

/-- The word for a kind is read back. -/
theorem TypeKind.ofJson?_word (kind : TypeKind) : ofJson? (.text kind.word) = some kind := by
  cases kind <;> decide

namespace Annotation

/-- An annotation holds no numbers. -/
theorem isTextual_toJson (marker : Annotation) : marker.toJson.isTextual := by
  simp [toJson, isTextual, holdsTextual, isTextual_namesToJson]

/-- An annotation is read back, however its members are arranged. -/
theorem ofJson?_of_rearranged (marker : Annotation) (value : Json)
    (rearranged : marker.toJson.Rearranged value) : ofJson? value = some marker := by
  obtain ⟨values, read, each⟩ := rearranged.record? (by simp)
  obtain _ | ⟨name, _ | ⟨members, _ | ⟨qualifier, _ | _⟩⟩⟩ := each
  obtain rfl := name.eq_text
  obtain rfl := qualifier.eq_boolean
  have fields : value.record? ["name", "members", "qualifier"] = _ := read
  simp [ofJson?, fields, Json.required, Json.withDefault, Json.text?, Json.boolean?,
    namesOfJson?_of_rearranged members]

end Annotation

/-- A list of annotations holds no numbers. -/
theorem isTextual_annotationsToJson (annotations : List Annotation) :
    (annotationsToJson annotations).isTextual :=
  areTextual_map Annotation.isTextual_toJson annotations

/-- A list of annotations is read back, however their members are arranged. -/
theorem annotationsOfJson?_of_rearranged {annotations : List Annotation} {value : Json}
    (rearranged : (annotationsToJson annotations).Rearranged value) :
    annotationsOfJson? (some value) = some annotations :=
  rearranged.list? Annotation.ofJson?_of_rearranged

namespace ParameterDeclaration

/-- A parameter holds no numbers. -/
theorem isTextual_toJson (parameter : ParameterDeclaration) : parameter.toJson.isTextual := by
  obtain ⟨name, type, annotations⟩ := parameter
  cases name <;> simp [toJson, isTextual, holdsTextual, isTextual_annotationsToJson]

/-- A missing name is written as null, and null is read as a missing name. -/
theorem optionalText?_of_rearranged {name : Option String} {value : Json}
    (rearranged : Rearranged (name.elim .null .text) value) :
    Json.optionalText? value = some name := by
  cases name with
  | none =>
      obtain rfl := rearranged.eq_null
      rfl
  | some text =>
      obtain rfl := rearranged.eq_text
      rfl

/-- A parameter is read back, however its members are arranged. -/
theorem ofJson?_of_rearranged (parameter : ParameterDeclaration) (value : Json)
    (rearranged : parameter.toJson.Rearranged value) : ofJson? value = some parameter := by
  obtain ⟨values, read, each⟩ := rearranged.record? (by simp)
  obtain _ | ⟨name, _ | ⟨type, _ | ⟨annotations, _ | _⟩⟩⟩ := each
  obtain rfl := type.eq_text
  have fields : value.record? ["name", "type", "annotations"] = _ := read
  simp [ofJson?, fields, Json.required, Json.withDefault, Json.text?,
    optionalText?_of_rearranged name, annotationsOfJson?_of_rearranged annotations]

end ParameterDeclaration

namespace MethodDeclaration

/-- A method holds no numbers. -/
theorem isTextual_toJson (method : MethodDeclaration) : method.toJson.isTextual := by
  simp [toJson, isTextual, holdsTextual, isTextual_annotationsToJson,
    areTextual_map ParameterDeclaration.isTextual_toJson]

/-- A method is read back, however its members are arranged. -/
theorem ofJson?_of_rearranged (method : MethodDeclaration) (value : Json)
    (rearranged : method.toJson.Rearranged value) : ofJson? value = some method := by
  obtain ⟨values, read, each⟩ := rearranged.record? (by simp)
  obtain _ | ⟨name, _ | ⟨returnType, _ | ⟨annotations, _ | ⟨parameters, _ | _⟩⟩⟩⟩ := each
  obtain rfl := name.eq_text
  obtain rfl := returnType.eq_text
  have fields : value.record? ["name", "return_type", "annotations", "parameters"] = _ := read
  simp [ofJson?, fields, Json.required, Json.withDefault, Json.text?,
    annotationsOfJson?_of_rearranged annotations,
    parameters.list? ParameterDeclaration.ofJson?_of_rearranged]

end MethodDeclaration

namespace TypeDeclaration

/-- A declaration holds no numbers. -/
theorem isTextual_toJson (declaration : TypeDeclaration) : declaration.toJson.isTextual := by
  simp [toJson, isTextual, holdsTextual, isTextual_annotationsToJson,
    areTextual_map MethodDeclaration.isTextual_toJson]

/-- A declaration is read back, however its members are arranged. -/
theorem ofJson?_of_rearranged (declaration : TypeDeclaration) (value : Json)
    (rearranged : declaration.toJson.Rearranged value) : ofJson? value = some declaration := by
  obtain ⟨values, read, each⟩ := rearranged.record? (by simp)
  obtain _ | ⟨name, _ | ⟨kind, _ | ⟨annotations, _ | ⟨methods, _ | _⟩⟩⟩⟩ := each
  obtain rfl := name.eq_text
  obtain rfl := kind.eq_text
  have fields : value.record? ["name", "kind", "annotations", "methods"] = _ := read
  simp [ofJson?, fields, Json.required, Json.withDefault, Json.text?, TypeKind.ofJson?_word,
    annotationsOfJson?_of_rearranged annotations,
    methods.list? MethodDeclaration.ofJson?_of_rearranged]

/-- Whatever a declaration holds, it is read back from the text that it is written as. -/
theorem parse?_print (declaration : TypeDeclaration) :
    parse? declaration.toJson.print = some declaration := by
  rw [parse?, Json.parse?_print (isTextual_toJson declaration)]
  exact ofJson?_of_rearranged declaration _ (.same _)

/-- Whatever a declaration holds, it is read back from the value that it is written as, from each
value that differs from that one in the order of members alone, and from the text of it. -/
theorem written_reads_back (declaration : TypeDeclaration) :
    ofJson? declaration.toJson = some declaration ∧
      (∀ value, declaration.toJson.Rearranged value → ofJson? value = some declaration) ∧
      parse? declaration.toJson.print = some declaration :=
  ⟨ofJson?_of_rearranged declaration _ (.same _), ofJson?_of_rearranged declaration,
    parse?_print declaration⟩

def paid : Annotation :=
  ⟨"com.example.Paid", .ofList [("by", "card"), ("at", "3")], true⟩

def paidTurned : Json :=
  .object [
    ("name", .text "com.example.Paid"),
    ("members", .object [("by", .text "card"), ("at", .text "3")]),
    ("qualifier", .boolean true)]

/-- A bean with members of an annotation and with a parameter without a name. -/
def paidOrders : TypeDeclaration where
  name := "com.example.Orders"
  kind := .classType
  annotations := [paid]
  methods := [⟨"placed", "void", [], [⟨none, "com.example.Order", []⟩]⟩]

/-- The kind comes before the name, and the members of the annotation are turned round. -/
def paidOrdersTurned : Json :=
  .object [
    ("kind", .text "class"),
    ("name", .text "com.example.Orders"),
    ("annotations", .array [paidTurned]),
    ("methods", .array (paidOrders.methods.map MethodDeclaration.toJson))]

theorem rearranged_paid : paid.toJson.Rearranged paidTurned := by
  have members : (namesToJson paid.members).Rearranged
      (.object [("by", .text "card"), ("at", .text "3")]) :=
    .object rfl (.cons (.same _) (.cons (.same _) .nil)) (.swap ..)
  refine .object ?keys ?each (.refl _)
  case keys => rfl
  case each => exact .cons (.same _) (.cons members (.cons (.same _) .nil))

theorem rearranged_paidOrders : paidOrders.toJson.Rearranged paidOrdersTurned := by
  have annotations : (annotationsToJson [paid]).Rearranged (.array [paidTurned]) :=
    .array (.cons rearranged_paid .nil)
  refine .object ?keys ?each (.swap ..)
  case keys => rfl
  case each => exact .cons (.same _) (.cons (.same _) (.cons annotations (.cons (.same _) .nil)))

theorem paidOrdersTurned_reads_back : paidOrders.toJson.Rearranged paidOrdersTurned ∧
    ofJson? paidOrdersTurned = some paidOrders :=
  ⟨rearranged_paidOrders, (written_reads_back paidOrders).2.1 _ rearranged_paidOrders⟩

end TypeDeclaration

end BusBridge
