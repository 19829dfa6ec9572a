import GatewayPrint.Proofs.Printer.Cutting
import GatewayPrint.Proofs.Shuffled
import GatewayPrint.Proofs.Yaml.Laid

/-!
# Insertion order and key order

The order in which the entries of mappings were inserted is not seen in YAML, on any level: in the
text the keys of each mapping stand in the ascending order of their code points
(`Printer.print_yaml_keyOrder`). So a model is printed like its wire dict in any order.

The keys of data in ascending order are sorted already, so its tree is the one that has the same
order (`ofValue_ascending`), and the text is laid out for it.
-/

namespace GatewayPrint

open Outcome Resource

variable {w : Value} {es : List (Value × Value)} {p : Printer}

namespace Yaml

/-- Entries whose keys ascend are written in their order. -/
theorem ofEntries_ascending (hkeys : Value.TextKeys es)
    (hascend : (es.map fun e ↦ Value.codes e.1).Pairwise (· < ·))
    (h : List.Forall₂ IsEntryWrittenAs es es) :
    Tree.ofValue (.map es) = .ok (treeOf (.map es)) := by
  rw [Tree.ofValue, ofEntries_eq h, sortEntries, Value.sortByKey_eq_self]
  · dsimp only
    rw [ok_bind, collectEntries_eq]
    rfl
  · intro e he
    obtain ⟨f, hf, rfl⟩ := List.mem_map.mp he
    exact hkeys f hf
  · rw [List.map_map]
    exact hascend

/-- **The tree of data whose keys ascend** has its order. -/
theorem ofValue_ascending (h : Printable w) (hascend : Throughout Value.KeysAscend w) :
    Tree.ofValue w = .ok (treeOf w) := by
  induction h with
  | null | bool | text => rfl
  | @int n h =>
    change Tree.ofScalar (.int n) = _
    rw [Tree.ofScalar, intText?_eq h, (writesPlain_int h).tree]
  | @list xs h ih =>
    obtain ⟨-, hinside⟩ := throughout_iff.mp hascend
    exact (isWrittenAs_list (List.forall₂_same.mpr fun x hx ↦
      isWrittenAs_self (h x hx) (ih x hx (hinside x hx)))).tree
  | @map es hkeys hnodup h ih =>
    obtain ⟨⟨htext, hcodes⟩, hinside⟩ := throughout_iff.mp hascend
    refine ofEntries_ascending htext hcodes (List.forall₂_same.mpr fun e he ↦ ⟨rfl, htext e he, ?_⟩)
    exact isWrittenAs_self (h e he) (ih e he (hinside e.2 (List.mem_map_of_mem he)))

end Yaml

namespace Printer

open Yaml

/-- What a printer of YAML writes for plain data without a fault is the text of a tree. -/
theorem exists_tree_of_print {k : Nat} (h : PlainData (.map es))
    (hfault : (Printer.print ⟨.yaml, k⟩ (.map es)).fault = none) :
    ∃ t, Tree.ofValue (.map es) = .ok t ∧
      (Printer.print ⟨.yaml, k⟩ (.map es)).out.toList = lead k ++ t.text := by
  obtain ⟨hout, -⟩ := print_yaml k (.map es)
  rw [fault_print] at hfault
  by_cases hkind : NamesKind es
  · have hnormal := normalize_eq h hkind
    rw [OutputFormat.fault?, OutputFormat.document_of_normalize hnormal, OutputFormat.write,
      Yaml.write] at hfault
    rw [isAccepted_of_dataResource ⟨es, rfl, h, hkind⟩, if_pos rfl, place, document?,
      OutputFormat.document_of_normalize hnormal, OutputFormat.write, Yaml.write] at hout
    cases ht : Tree.ofValue (.map es) with
    | error e =>
      rw [ht] at hfault
      cases hfault
    | ok t =>
      rw [ht] at hout
      refine ⟨t, rfl, hout.trans (congrArg (lead k ++ ·) ?_)⟩
      exact String.toList_ofList
  · have hrefused : Resource.normalize (.map es) = .error .missingKind := by
      refine normalize_of_mapping (plain_eq h) (.map es) ?_
      rintro ⟨hkind'⟩
      exact hkind hkind'
    rw [OutputFormat.fault?, OutputFormat.document_of_refused hrefused] at hfault
    cases hfault

/-- **The text of plain data** is laid out for the data with all keys in ascending order. -/
theorem exists_lays_of_print {k : Nat} (h : PlainData (.map es))
    (hfault : (Printer.print ⟨.yaml, k⟩ (.map es)).fault = none) :
    ∃ w s gap, (Value.map es).Reorders w ∧ Throughout Value.KeysAscend w ∧ Lays w s ∧ IsGap gap ∧
      (Printer.print ⟨.yaml, k⟩ (.map es)).out.toList = lead k ++ (s ++ gap) := by
  obtain ⟨t, ht, hout⟩ := exists_tree_of_print h hfault
  obtain ⟨w, hreorders, hw, hascend⟩ := Value.exists_ascending h
  -- The data in ascending order have the same tree, which is therefore in their order.
  have htree : Tree.ofValue w = .ok t := (ofValue_shuffles (hreorders.shuffles h)).trans ht
  have hprintable : Printable w := printable_of_ofValue hw htree
  rw [ofValue_ascending hprintable hascend] at htree
  obtain rfl : treeOf w = t := Except.ok.inj htree
  obtain ⟨s, gap, htext, hlays, hgap⟩ := text_laidOut hprintable
  exact ⟨w, s, gap, hreorders, hascend, hlays, hgap, by rw [hout, htext]⟩

/-- What is printed depends on the data of a resource alone. -/
theorem print_congr {u v : Value} (h : data u = data v) : p.print u = p.print v := by
  rw [print, print, Resource.normalize, Resource.normalize, h]

/-- A model is printed like its wire dict with the entries in any order, and like its plain form
with the entries of all mappings in any order. -/
theorem print_wireDict {kind : ModelKind} {attrs : List (String × Value)} {d : Value}
    (hp : p.format = .yaml) (hd : plain (.model kind attrs) = .ok d)
    (h : (wireDict kind attrs).Shuffles w ∨
      Throughout MemberPlain (.model kind attrs) ∧ d.Shuffles w) :
    p.print w = p.print (.model kind attrs) := by
  have hwire := plain_wireDict kind attrs
  rcases h with hw | ⟨hmembers, hw⟩
  · have hdata : data (wireDict kind attrs) = data (.model kind attrs) := hwire
    rw [print_shuffles hp hw (hwire.trans hd), ← print_congr hdata]
    rfl
  · obtain ⟨es, rfl⟩ := exists_map_of_plain (hwire.trans hd)
    have hplain : plain (.map es) = .ok (.map es) := plain_plain hmembers hd
    have hdata : data (.map es) = data (.model kind attrs) := hplain.trans hd.symm
    rw [print_shuffles hp hw hplain, print_congr hdata]

/-- **Insertion order is not printed** as YAML. Mappings of plain data that differ in the order of
entries alone, on any level, are printed alike. If there is a text, it is laid out for the data with
the keys of all mappings in ascending order. And a model is printed like its wire dict with the
entries in any order, whether its values are made plain before or not. -/
theorem print_yaml_keyOrder (k : Nat) :
    (∀ es w, PlainData (.map es) → (Value.map es).Reorders w →
      Printer.print ⟨.yaml, k⟩ w = Printer.print ⟨.yaml, k⟩ (.map es)) ∧
    (∀ es, PlainData (.map es) → (Printer.print ⟨.yaml, k⟩ (.map es)).fault = none →
      ∃ w s gap, (Value.map es).Reorders w ∧ Throughout Value.KeysAscend w ∧ Lays w s ∧
        IsGap gap ∧ (Printer.print ⟨.yaml, k⟩ (.map es)).out.toList = lead k ++ (s ++ gap)) ∧
    ∀ kind attrs d w, plain (.model kind attrs) = .ok d →
      ((wireDict kind attrs).Shuffles w ∨
        Throughout MemberPlain (.model kind attrs) ∧ d.Shuffles w) →
      Printer.print ⟨.yaml, k⟩ w = Printer.print ⟨.yaml, k⟩ (.model kind attrs) := by
  refine ⟨fun es w h hw ↦ ?_, fun es h hfault ↦ exists_lays_of_print h hfault,
    fun kind attrs d w hd hw ↦ print_wireDict rfl hd hw⟩
  exact print_shuffles rfl (hw.shuffles h) (plain_eq h)

/-- A list of mappings, under keys that do not ascend. -/
def portEntries : List (Value × Value) :=
  [(.text "kind", .text "List"),
    (.text "items", .list [.map [(.text "port", .int 80), (.text "host", .null)]])]

/-- The same list with all entries the other way round. -/
def portsReversed : Value :=
  .map [(.text "items", .list [.map [(.text "host", .null), (.text "port", .int 80)]]),
    (.text "kind", .text "List")]

/-- What `ingressModel` is normalised to, with all entries the other way round. -/
def ingressReversed : Value :=
  .map [(.text "metadata", .map [(.text "name", .text "web"),
      (.text "labels", .map [(.text "tier", .text "front")]), (.text "generation", .text "0.5")]),
    (.text "kind", .text "Ingress")]

theorem printable_portEntries : Printable (.map portEntries) := by
  have hports : Printable (.map [(.text "port", .int 80), (.text "host", .null)]) := by
    refine .map ?_ (by simp) ?_
    · exact List.forall_mem_cons.mpr ⟨⟨_, trivial, rfl⟩,
        List.forall_mem_singleton.mpr ⟨_, trivial, rfl⟩⟩
    · exact List.forall_mem_cons.mpr ⟨.int rfl, List.forall_mem_singleton.mpr .null⟩
  refine .map ?_ (by simp [portEntries]) ?_
  · exact List.forall_mem_cons.mpr ⟨⟨_, trivial, rfl⟩,
      List.forall_mem_singleton.mpr ⟨_, trivial, rfl⟩⟩
  · exact List.forall_mem_cons.mpr ⟨.text trivial,
      List.forall_mem_singleton.mpr (.list (List.forall_mem_singleton.mpr hports))⟩

private theorem shuffles_ingressReversed : ingressDict.Shuffles ingressReversed := by
  have hmetadata : (Value.map [(.text "generation", .text "0.5"),
      (.text "labels", .map [(.text "tier", .text "front")]), (.text "name", .text "web")]).Shuffles
      (.map [(.text "name", .text "web"), (.text "labels", .map [(.text "tier", .text "front")]),
        (.text "generation", .text "0.5")]) := by
    refine .map ?_ (by simp) rfl ?_ (List.reverse_perm _).symm
    · exact List.forall_mem_cons.mpr ⟨⟨_, rfl⟩, List.forall_mem_cons.mpr ⟨⟨_, rfl⟩,
        List.forall_mem_singleton.mpr ⟨_, rfl⟩⟩⟩
    · exact List.forall_mem_cons.mpr ⟨.refl _, List.forall_mem_cons.mpr ⟨.refl _,
        List.forall_mem_singleton.mpr (.refl _)⟩⟩
  refine @Value.Shuffles.map _ [(.text "kind", .text "Ingress"), (.text "metadata", .map
      [(.text "name", .text "web"), (.text "labels", .map [(.text "tier", .text "front")]),
        (.text "generation", .text "0.5")])] _ ?_ (by simp) rfl ?_ (List.reverse_perm _).symm
  · exact List.forall_mem_cons.mpr ⟨⟨_, rfl⟩, List.forall_mem_singleton.mpr ⟨_, rfl⟩⟩
  · exact List.forall_mem_cons.mpr ⟨.refl _, List.forall_mem_singleton.mpr hmetadata⟩

theorem print_yaml_keyOrder_ports :
    PlainData (.map portEntries) ∧ (Value.map portEntries).Reorders portsReversed ∧
    (Printer.print ⟨.yaml, 1⟩ (.map portEntries)).fault = none ∧
    plain ingressModel = .ok ingressDict ∧
    (Throughout MemberPlain ingressModel ∧ ingressDict.Shuffles ingressReversed) ∧
    Printer.print ⟨.yaml, 1⟩ portsReversed = Printer.print ⟨.yaml, 1⟩ (.map portEntries) ∧
    (∃ w s gap, (Value.map portEntries).Reorders w ∧ Throughout Value.KeysAscend w ∧ Lays w s ∧
      IsGap gap ∧
      (Printer.print ⟨.yaml, 1⟩ (.map portEntries)).out.toList = lead 1 ++ (s ++ gap)) ∧
    Printer.print ⟨.yaml, 1⟩ ingressReversed = Printer.print ⟨.yaml, 1⟩ ingressModel := by
  have hdata : PlainData (.map portEntries) := printable_portEntries.plainData
  have hports : (Value.map [(.text "port", .int 80), (.text "host", .null)]).Reorders
      (.map [(.text "host", .null), (.text "port", .int 80)]) :=
    .map rfl (List.forall_mem_cons.mpr ⟨.refl _, List.forall_mem_singleton.mpr (.refl _)⟩)
      (List.reverse_perm _).symm
  have hreorders : (Value.map portEntries).Reorders portsReversed :=
    @Value.Reorders.map _ [(.text "kind", .text "List"),
        (.text "items", .list [.map [(.text "host", .null), (.text "port", .int 80)]])] _ rfl
      (List.forall_mem_cons.mpr ⟨.refl _, List.forall_mem_singleton.mpr
        (.list rfl (List.forall_mem_singleton.mpr hports))⟩) (List.reverse_perm _).symm
  have hfault : (Printer.print ⟨.yaml, 1⟩ (.map portEntries)).fault = none := by
    rcases place_cases ⟨portEntries, rfl, hdata, .inr rfl⟩ with ⟨-, hnone, -⟩ | ⟨hnot, -⟩
    · exact (fault_print ⟨.yaml, 1⟩ _).trans ((fault_print (new .yaml) _).symm.trans hnone)
    · exact absurd printable_portEntries hnot
  obtain ⟨hprint, hlays, hmodel⟩ := print_yaml_keyOrder 1
  have hwire : Throughout MemberPlain ingressModel ∧ ingressDict.Shuffles ingressReversed :=
    ⟨memberPlain_ingressModel, shuffles_ingressReversed⟩
  exact ⟨hdata, hreorders, hfault, plain_ingressModel, hwire, hprint _ _ hdata hreorders,
    hlays _ hdata hfault, hmodel _ _ _ _ plain_ingressModel (.inr hwire)⟩

end Printer

end GatewayPrint
