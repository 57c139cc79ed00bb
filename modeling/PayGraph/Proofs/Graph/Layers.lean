import Mathlib.Logic.Relation

/-!
# Layered lists

A list is layered by a relation if each entry stands in front of everything it reads.  The finished
nodes of an evaluation and the searched nodes of a cycle search both form such lists.  A layered
list is closed under reading, and none of its entries leads back to itself.
-/

namespace PayGraph

/-- Distinct vertices, each in front of everything that it reads. -/
inductive Layered {Vertex : Type*} (reads : Vertex → Vertex → Prop) : List Vertex → Prop
  | nil : Layered reads []
  | cons {vertex : Vertex} {rest : List Vertex} :
      (∀ source, reads vertex source → source ∈ rest) →
      vertex ∉ rest →
      Layered reads rest →
      Layered reads (vertex :: rest)

namespace Layered

variable {Vertex : Type*} {reads : Vertex → Vertex → Prop} {vertices : List Vertex}

theorem nodup (layered : Layered reads vertices) : vertices.Nodup := by
  induction layered with
  | nil => exact List.nodup_nil
  | cons _ fresh _ induction => exact List.nodup_cons.mpr ⟨fresh, induction⟩

theorem mem_of_reads (layered : Layered reads vertices) {vertex source : Vertex}
    (member : vertex ∈ vertices) (edge : reads vertex source) : source ∈ vertices := by
  induction layered with
  | nil => cases member
  | cons sources_mem _ _ induction =>
      rcases List.mem_cons.mp member with rfl | member
      · exact List.mem_cons_of_mem _ (sources_mem source edge)
      · exact List.mem_cons_of_mem _ (induction member)

theorem mem_of_reaches (layered : Layered reads vertices) {vertex target : Vertex}
    (member : vertex ∈ vertices) (reach : Relation.ReflTransGen reads vertex target) :
    target ∈ vertices := by
  induction reach with
  | refl => exact member
  | tail _ edge induction => exact layered.mem_of_reads induction edge

/-- No entry leads back to itself. -/
theorem acyclic (layered : Layered reads vertices) {vertex : Vertex}
    (member : vertex ∈ vertices) : ¬Relation.TransGen reads vertex vertex := by
  induction layered with
  | nil => cases member
  | cons sources_mem fresh rest_layered induction =>
      rcases List.mem_cons.mp member with rfl | member
      · intro cycle
        obtain ⟨source, edge, back⟩ := Relation.TransGen.head'_iff.mp cycle
        exact fresh (rest_layered.mem_of_reaches (sources_mem source edge) back)
      · exact induction member

end Layered
end PayGraph
