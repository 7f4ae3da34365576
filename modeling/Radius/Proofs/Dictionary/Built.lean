-- SUMMARY: What is true of every dictionary that can be built: what its adders keep, loading keeps too.
import Radius.Proofs.Dictionary.Expansion

/-!
# Dictionaries that are built

A dictionary is built by adding to the empty one, statement by statement or from resources.
Loading does nothing to the dictionary under way but carry out statements, however the
resources include one another, so a property that every statement keeps is one of every
dictionary. The first of them is that the standard type of containers stays reserved.
-/

namespace Radius

namespace Dictionary

/-! ## Building -/

/-- Dictionaries that adding and loading make of the empty one. -/
inductive Built : Dictionary → Prop
  | empty : Built Dictionary.empty
  | add {dictionary extended : Dictionary} {statement : Statement} : Built dictionary →
      statement.apply dictionary = .ok extended → Built extended
  | load {dictionary : Dictionary} {source : Source} {resource : String} {loading : Loading} :
      Built dictionary → dictionary.load source resource = .ok loading → Built loading.dictionary

/-- What the empty dictionary has and every statement keeps is true of every dictionary. -/
theorem Built.of_add {P : Dictionary → Prop} {dictionary : Dictionary} (h : Built dictionary)
    (hempty : P Dictionary.empty)
    (hadd : ∀ (dictionary : Dictionary) statement extended, P dictionary →
      Statement.apply dictionary statement = .ok extended → P extended) : P dictionary := by
  induction h with
  | empty => exact hempty
  | add _ hextended ih => exact hadd _ _ _ ih hextended
  | load _ hloading ih =>
      obtain ⟨lines, -, hperformed⟩ := dictionary_of_load hloading
      rw [hperformed]
      exact perform_keeps (fun statement _ dictionary extended => hadd dictionary statement extended) ih

/-! ## The type of containers -/

/-- The standard attribute 26 is of no kind but that of containers. -/
def ReservesContainer (dictionary : Dictionary) : Prop :=
  ∀ definition ∈ dictionary.definitions, definition.vendor = none →
    definition.code = AttributeType.vendorSpecific → definition.kind = .vendorSpecific

theorem ReservesContainer.byName? {dictionary : Dictionary} (h : dictionary.ReservesContainer)
    {name : String} {definition : AttributeDefinition}
    (hname : dictionary.byName? name = some definition) (hvendor : definition.vendor = none)
    (hcode : definition.code = AttributeType.vendorSpecific) : definition.kind = .vendorSpecific := by
  obtain ⟨index, -, hindex⟩ := Option.bind_eq_some_iff.mp hname
  exact h definition (List.mem_of_getElem? hindex) hvendor hcode

theorem kind_reserveContainer {definition : AttributeDefinition}
    (hvendor : (reserveContainer definition).vendor = none)
    (hcode : (reserveContainer definition).code = AttributeType.vendorSpecific) :
    (reserveContainer definition).kind = .vendorSpecific := by
  unfold reserveContainer at hvendor hcode ⊢
  split
  · rfl
  · rename_i hother
    rw [if_neg hother] at hvendor hcode
    exact absurd ⟨hvendor, hcode⟩ hother

theorem ReservesContainer.add {dictionary extended : Dictionary} {statement : Statement}
    (h : dictionary.ReservesContainer) (hextended : statement.apply dictionary = .ok extended) :
    extended.ReservesContainer := by
  cases statement with
  | define definition =>
      simp only [Statement.apply, define] at hextended
      split at hextended
      · cases hextended
      split at hextended
      · cases hextended
      cases hextended
      intro present hpresent
      rcases List.mem_append.mp hpresent with hold | hnew
      · exact h present hold
      · cases List.mem_singleton.mp hnew
        exact kind_reserveContainer
  | label name value text =>
      simp only [Statement.apply, label] at hextended
      split at hextended
      · cases hextended
      cases hextended
      -- A label changes neither the code of a definition nor its kind.
      intro present hpresent
      obtain ⟨index, hindex⟩ := List.mem_iff_getElem?.mp hpresent
      rw [List.getElem?_modify] at hindex
      obtain ⟨definition, hdefinition, rfl⟩ := Option.map_eq_some_iff.mp hindex
      have hkept := h definition (List.mem_of_getElem? hdefinition)
      split
      · exact hkept
      · exact hkept
  | nameVendor vendor name =>
      simp only [Statement.apply, nameVendor] at hextended
      split at hextended
      · split at hextended
        · cases hextended
          exact h
        · cases hextended
      · cases hextended
        exact h
  | inclusion target =>
      cases hextended
      exact h

/-- No way of building a dictionary gives the type of containers another kind. -/
theorem Built.reservesContainer {dictionary : Dictionary} (h : Built dictionary) :
    dictionary.ReservesContainer := by
  apply h.of_add
  · intro definition hdefinition
    cases hdefinition
  · exact fun _ _ _ hreserves hextended => hreserves.add hextended

end Dictionary
end Radius
