import ServletFilters.CommandLine.Resolution
import ServletFilters.Proofs.PrintedJson

/-!
The documents of resolutions, member by member, and that their texts hold them.
-/

namespace ServletFilters.CommandLine
open Json (Textual)

/-- The members of an object are in ascending order. -/
def registrationDocument (r : Registration) : Json :=
  .object [("async_supported", .boolean r.asyncSupported), ("class", .string r.className),
    ("init_params", .object (r.initParams.entries.map fun e => (e.1, .string e.2))),
    ("name", .string r.name)]

/-- The document of the chain around a servlet. -/
def chainDocument (servlet : String) (type : Dispatcher) (filters : List Registration) : Json :=
  .object [("dispatcher", .string type.name),
    ("filters", .array (filters.map registrationDocument)), ("servlet", .string servlet)]

theorem pairwise_registrationDocument (r : Registration) :
    [("async_supported", Json.boolean r.asyncSupported), ("class", .string r.className),
      ("init_params", .object (r.initParams.entries.map fun e => (e.1, .string e.2))),
      ("name", .string r.name)].Pairwise fun a b => a.1 < b.1 := by
  have hnames : ["async_supported", "class", "init_params", "name"].Pairwise (· < ·) := by decide
  exact List.pairwise_map.1 hnames

theorem pairwise_params (p : Params) :
    (p.entries.map fun e => (e.1, Json.string e.2)).Pairwise fun a b => a.1 < b.1 :=
  List.pairwise_map.2 p.ascending

theorem writeRegistration_eq (r : Registration) :
    Schema.writeRegistration Json.writer r = registrationDocument r := by
  have hparams : Json.ofMembers (r.initParams.entries.map fun e => (e.1, .string e.2)) =
      .object (r.initParams.entries.map fun e => (e.1, .string e.2)) :=
    congrArg Json.object (Ascending.ofList_of_perm (.refl _) (pairwise_params r.initParams))
  rw [Schema.writeRegistration, Json.writer]
  simp only [hparams]
  apply congrArg Json.object
  apply Ascending.ofList_of_perm _ (pairwise_registrationDocument r)
  -- backwards, with the two in the middle exchanged
  exact (List.reverse_perm _).symm.trans (.cons _ (.swap _ _ _))

theorem textual_registrationDocument (n : Nat) (r : Registration) :
    Textual (n + 3) (registrationDocument r) := by
  have hparams : Textual (n + 2)
      (.object (r.initParams.entries.map fun e => (e.1, .string e.2))) := by
    refine .object ?_ (pairwise_params r.initParams)
    intro m hm
    obtain ⟨e, -, rfl⟩ := List.mem_map.1 hm
    exact .string n e.2
  refine .object ?_ (pairwise_registrationDocument r)
  simp only [List.forall_mem_cons]
  exact ⟨.boolean _ _, .string _ _, hparams, .string _ _, nofun⟩

theorem pairwise_chainDocument (servlet : String) (type : Dispatcher) (filters : Json) :
    [("dispatcher", .string type.name), ("filters", filters), ("servlet", .string servlet)].Pairwise
      fun a b => a.1 < b.1 := by
  have hnames : ["dispatcher", "filters", "servlet"].Pairwise (· < ·) := by decide
  exact List.pairwise_map.1 hnames

theorem textual_chainDocument (servlet : String) (type : Dispatcher)
    (filters : List Registration) : Textual 128 (chainDocument servlet type filters) := by
  have hfilters : Textual 127 (.array (filters.map registrationDocument)) := by
    refine .array fun i hi => ?_
    obtain ⟨r, -, rfl⟩ := List.mem_map.1 hi
    exact textual_registrationDocument 123 r
  refine .object ?_ (pairwise_chainDocument servlet type _)
  simp only [List.forall_mem_cons]
  exact ⟨.string _ _, hfilters, .string _ _, nofun⟩

theorem parse?_chainDocument (servlet : String) (type : Dispatcher)
    (filters : List Registration) : Json.parse? ((chainDocument servlet type filters).pretty 0) =
      some (chainDocument servlet type filters) :=
  Json.parse?_pretty (textual_chainDocument servlet type filters)

theorem Resolution.document_eq (s : Servlet) (filters : List Registration) (type : Dispatcher) :
    document ⟨⟨s, filters⟩, type⟩ = chainDocument s.name type filters := by
  rw [document, funext writeRegistration_eq, chainDocument, Json.ofMembers, Json.object.injEq]
  apply Ascending.ofList_of_perm _ (pairwise_chainDocument _ _ _)
  exact (List.Perm.swap _ _ _).trans (.cons _ (.swap _ _ _))

theorem parse?_documentOf (r : Option Resolution) :
    Json.parse? ((documentOf r).pretty 0) = some (documentOf r) := by
  cases r with
  | none => exact Json.parse?_pretty (.null 127)
  | some r =>
    rw [documentOf, Resolution.document_eq]
    exact parse?_chainDocument _ _ _

end ServletFilters.CommandLine
