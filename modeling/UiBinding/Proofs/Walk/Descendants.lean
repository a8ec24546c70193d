/-
What hangs below a component: the rows of a walk, followed along their parents.

`Walk.descendants` reads the rows once, from front to back, and keeps a row whose parent is known by
then.  Parents stand before the rows that hang on them, with one exception: a root panel that hangs
below another one may be walked first, and then its own row comes after those that hang on it.

* `Walk.HangsBelow` is the least set of rows that holds, with a row, those whose parent it is;
* `mem_below_iff`: a row is kept exactly when its parent is known at first or is kept before it;
* `below_of_justified`: no row is passed over that is justified by what is known, so if all root
  panels are known, none is (`below_roots`);
* `descendants_complete_iff`: below a component no row is passed over exactly when no root panel
  that hangs below it is listed late;
* `descendants_lacks_row`: a root panel that is listed late.
-/
import UiBinding.Proofs.Walk.Exactness

namespace UiBinding

namespace Walk

/-- A row hangs below a component if its parent is this component, or the component of a row that
hangs below it. -/
inductive HangsBelow (w : Walk) (root : Component.Key) : SubPanel → Prop where
  | direct {s : SubPanel} (listed : s ∈ w.subPanels) (parent : s.parent = root) :
      HangsBelow w root s
  | under {s t : SubPanel} (above : HangsBelow w root t) (listed : s ∈ w.subPanels)
      (parent : s.parent = t.component) : HangsBelow w root s

/-- A component that hangs below another one is listed late if a row whose parent it is stands
before its own row. -/
def ListedLate (w : Walk) (root key : Component.Key) : Prop :=
  ∃ before s after, w.subPanels = before ++ s :: after ∧ s.component = key ∧
    w.HangsBelow root s ∧ ∃ early ∈ before, early.parent = key

/-! ### One pass over the rows -/

/-- The pass keeps rows in their order. -/
lemma below_sublist (known : List Component.Key) (rows : List SubPanel) :
    (below known rows).Sublist rows := by
  induction rows generalizing known with
  | nil => exact List.Sublist.refl _
  | cons s rest ih =>
      rw [below]
      split
      · exact (ih _).cons_cons s
      · exact (ih _).cons s

/-- After the first rows the pass goes on with what they made known. -/
lemma below_append (known : List Component.Key) (first second : List SubPanel) :
    below known (first ++ second) = below known first ++
      below (((below known first).map SubPanel.component).reverse ++ known) second := by
  induction first generalizing known with
  | nil => simp [below]
  | cons s first ih =>
      rw [List.cons_append, below, below]
      split
      · rw [ih]
        simp
      · exact ih known

/-- A row that is not listed twice is kept exactly when its parent is known at first or is kept
before it. -/
lemma mem_below_iff {known : List Component.Key} {before after : List SubPanel} {s : SubPanel}
    (hbefore : s ∉ before) (hafter : s ∉ after) :
    s ∈ below known (before ++ s :: after) ↔
      s.parent ∈ known ∨ s.parent ∈ (below known before).map SubPanel.component := by
  have hfirst : s ∉ below known before := fun h => hbefore ((below_sublist _ _).subset h)
  have hparent : s.parent ∈ ((below known before).map SubPanel.component).reverse ++ known ↔
      s.parent ∈ known ∨ s.parent ∈ (below known before).map SubPanel.component := by
    rw [List.mem_append, List.mem_reverse, or_comm]
  rw [below_append, List.mem_append, or_iff_right hfirst, ← hparent, below]
  split
  · next hknown => exact ⟨fun _ => hknown, fun _ => List.mem_cons_self⟩
  · next hnew =>
      exact ⟨fun h => absurd ((below_sublist _ _).subset h) hafter, fun h => absurd h hnew⟩

variable {w : Walk} {root : Component.Key}

/-- If no component is listed twice, a row stands in one place only, and no other row has its
component. -/
lemma not_mem_of_split (hnodup : w.keys.Nodup) {before after : List SubPanel} {s : SubPanel}
    (hsplit : w.subPanels = before ++ s :: after) :
    s.component ∉ before.map SubPanel.component ∧ s ∉ before ∧ s ∉ after := by
  rw [keys, hsplit, List.map_append, List.map_cons, List.nodup_append, List.nodup_cons] at hnodup
  obtain ⟨-, ⟨hafter, -⟩, hdisjoint⟩ := hnodup
  have hbefore : s.component ∉ before.map SubPanel.component :=
    fun h => hdisjoint _ h _ List.mem_cons_self rfl
  exact ⟨hbefore, fun h => hbefore (List.mem_map_of_mem h), fun h => hafter (List.mem_map_of_mem h)⟩

/-! ### Rows that hang below a component -/

lemma HangsBelow.mem {s : SubPanel} (h : w.HangsBelow root s) : s ∈ w.subPanels := by
  cases h with
  | direct listed _ => exact listed
  | under _ listed _ => exact listed

/-- If all that is known hangs below the root, so does all that is kept. -/
lemma hangsBelow_of_mem_below {known : List Component.Key} {rows : List SubPanel}
    (hrows : rows ⊆ w.subPanels)
    (hknown : ∀ key ∈ known, key = root ∨ ∃ t, w.HangsBelow root t ∧ key = t.component) :
    ∀ s ∈ below known rows, w.HangsBelow root s := by
  induction rows generalizing known with
  | nil => simp [below]
  | cons s rest ih =>
      obtain ⟨hs, hrest⟩ := List.cons_subset.mp hrows
      rw [below]
      split
      · next hparent =>
          have hbelow : w.HangsBelow root s := by
            rcases hknown s.parent hparent with heq | ⟨t, ht, heq⟩
            · exact .direct hs heq
            · exact .under ht hs heq
          refine List.forall_mem_cons.mpr ⟨hbelow, ih hrest ?_⟩
          exact List.forall_mem_cons.mpr ⟨Or.inr ⟨s, hbelow, rfl⟩, hknown⟩
      · exact ih hrest hknown

/-- What is kept of a walk hangs below the root. -/
lemma hangsBelow_of_mem_descendants :
    ∀ s ∈ w.descendants root, w.HangsBelow root s :=
  hangsBelow_of_mem_below (List.Subset.refl _) (List.forall_mem_singleton.mpr (Or.inl rfl))

/-- The parent of a row that hangs below a component is this component, or it has another row, which
hangs below the component as well. -/
lemma HangsBelow.parent_cases {s : SubPanel} (h : w.HangsBelow root s) :
    s.parent = root ∨ ∃ t, w.HangsBelow root t ∧ s.parent = t.component ∧ t ≠ s := by
  induction h with
  | direct _ parent => exact Or.inl parent
  | @under s t above listed parent ih =>
      by_cases hself : t = s
      · -- a component that hangs on itself was reached in another way before
        exact hself ▸ ih
      · exact Or.inr ⟨t, above, parent, hself⟩

/-- If parents come before the rows that hang on them, the pass keeps all that hangs below. -/
lemma mem_below_of_ordered (hnodup : w.keys.Nodup)
    (hordered : ∀ before s after, w.subPanels = before ++ s :: after → w.HangsBelow root s →
      s.parent = root ∨ ∃ t ∈ before, w.HangsBelow root t ∧ s.parent = t.component)
    (rows rest : List SubPanel) (hsplit : w.subPanels = rows ++ rest) :
    ∀ s ∈ rows, w.HangsBelow root s → s ∈ below [root] rows := by
  induction rows using List.reverseRecOn generalizing rest with
  | nil => simp
  | append_singleton rows t ih =>
      rw [List.append_assoc, List.singleton_append] at hsplit
      have hearlier := ih (t :: rest) hsplit
      intro s hs hbelow
      rcases List.mem_append.mp hs with hs | hs
      · rw [below_append]
        exact List.mem_append_left _ (hearlier s hs hbelow)
      · obtain rfl := List.mem_singleton.mp hs
        obtain ⟨-, hnew, -⟩ := not_mem_of_split hnodup hsplit
        rw [mem_below_iff hnew List.not_mem_nil, List.mem_singleton]
        rcases hordered rows s rest hsplit hbelow with hparent | ⟨t, ht, htbelow, hparent⟩
        · exact Or.inl hparent
        · exact Or.inr (hparent ▸ List.mem_map_of_mem (hearlier t ht htbelow))

end Walk

namespace Registry

/-- No row is passed over that is justified by what is known at first. -/
lemma below_of_justified (r : Registry) {known : List Component.Key}
    {found : List (Discovery Component.Key)} (h : Search.Justified r.subPanelEdges known found) :
    Walk.below known (found.map r.subPanel) = found.map r.subPanel := by
  induction found generalizing known with
  | nil => rfl
  | cons d rest ih =>
      have hparent : (r.subPanel d).parent ∈ known := h.2.1
      rw [List.map_cons, Walk.below, if_pos hparent]
      exact congrArg _ (ih h.2.2)

/-- If all root panels are known, no row is passed over. -/
lemma below_roots (r : Registry) :
    Walk.below (r.walk.panels.map RootPanel.component) r.walk.subPanels = r.walk.subPanels :=
  r.below_of_justified r.covers_discoveries.justified

/-- No component is listed twice. -/
lemma nodup_keys_walk (r : Registry) : r.walk.keys.Nodup := by
  rw [keys_walk]
  exact r.covers_discoveries.nodup

/-- The parent of a row is a root panel, or the component of a row before it. -/
lemma parent_of_split (r : Registry) {before after : List SubPanel} {s : SubPanel}
    (hsplit : r.walk.subPanels = before ++ s :: after) :
    s.parent ∈ r.walk.panels.map RootPanel.component ∨
      s.parent ∈ before.map SubPanel.component := by
  obtain ⟨-, hbefore, hafter⟩ := Walk.not_mem_of_split r.nodup_keys_walk hsplit
  have hkept : s ∈ Walk.below (r.walk.panels.map RootPanel.component) (before ++ s :: after) := by
    rw [← hsplit, below_roots, hsplit]
    exact List.mem_append_right _ List.mem_cons_self
  refine ((Walk.mem_below_iff hbefore hafter).mp hkept).imp_right fun h => ?_
  exact ((Walk.below_sublist _ _).map _).subset h

/-- **The rows below a component**: the pass keeps rows in their order, and only such as hang below
the component.  It keeps all of them exactly when no root panel that hangs below the component,
other than the component itself, is listed late. -/
theorem descendants_complete_iff (r : Registry) (root : Component.Key) :
    (r.walk.descendants root).Sublist r.walk.subPanels ∧
    (∀ s ∈ r.walk.descendants root, r.walk.HangsBelow root s) ∧
    ((∀ s, r.walk.HangsBelow root s → s ∈ r.walk.descendants root) ↔
      ∀ panel ∈ r.walk.panels, panel.component ≠ root →
        ¬ r.walk.ListedLate root panel.component) := by
  have hnodup := r.nodup_keys_walk
  refine ⟨Walk.below_sublist _ _, Walk.hangsBelow_of_mem_descendants, ?_, ?_⟩
  · rintro hall panel - hne ⟨before, s, after, hsplit, hkey, hs, early, hearly, hparent⟩
    -- the early row hangs below the root too, but its parent is not known yet
    obtain ⟨hlate, -, -⟩ := Walk.not_mem_of_split hnodup hsplit
    have hlisted : early ∈ r.walk.subPanels := hsplit ▸ List.mem_append_left _ hearly
    have hkept := hall early (.under hs hlisted (hparent.trans hkey.symm))
    obtain ⟨first, second, rfl⟩ := List.append_of_mem hearly
    rw [List.append_assoc, List.cons_append] at hsplit
    obtain ⟨-, hfirst, hsecond⟩ := Walk.not_mem_of_split hnodup hsplit
    rw [Walk.descendants, hsplit, Walk.mem_below_iff hfirst hsecond, hparent] at hkept
    rcases hkept with hroot | hknown
    · exact hne (List.mem_singleton.mp hroot)
    · have hrow := ((Walk.below_sublist _ _).map _).subset hknown
      rw [hkey, List.map_append] at hlate
      exact hlate (List.mem_append_left _ hrow)
  · intro hlate s hs
    refine Walk.mem_below_of_ordered hnodup ?_ r.walk.subPanels [] (by simp) s hs.mem hs
    intro before s after hsplit hs
    refine or_iff_not_imp_left.mpr fun hroot => ?_
    obtain ⟨t, ht, hparent, hne⟩ := hs.parent_cases.resolve_left hroot
    refine ⟨t, ?_, ht, hparent⟩
    by_contra hbefore
    -- the parent has its row behind, so it is a root panel that is listed late
    have hafter : t ∈ after := by
      have hmem := ht.mem
      rw [hsplit, List.mem_append, List.mem_cons] at hmem
      exact (hmem.resolve_left hbefore).resolve_left hne
    rcases r.parent_of_split hsplit with hpanel | hearlier
    · obtain ⟨panel, hpanel, heq⟩ := List.mem_map.mp hpanel
      obtain ⟨first, second, rfl⟩ := List.append_of_mem hafter
      refine hlate panel hpanel (heq ▸ hroot)
        ⟨before ++ s :: first, t, second, ?_, ?_, ht, s, ?_, ?_⟩
      · rw [hsplit, List.append_assoc, List.cons_append]
      · exact hparent.symm.trans heq.symm
      · exact List.mem_append_right _ List.mem_cons_self
      · exact heq.symm
    · obtain ⟨u, hu, heq⟩ := List.mem_map.mp hearlier
      have hlisted : u ∈ r.walk.subPanels := hsplit ▸ List.mem_append_left _ hu
      obtain rfl := List.inj_on_of_nodup_map hnodup hlisted ht.mem (heq.trans hparent)
      exact hbefore hu

/-- A package whose root panel holds the root panel of a second package, which holds a third
component.  The packages may stand in either order. -/
def nestedPanels (innerFirst : Bool) : Registry where
  packages := .ofList (if innerFirst then [inner, outer] else [outer, inner])
  components := .ofList
    [⟨"pz", "z0", "ZetaPanel.xml", .component, true, [], [field "beta" ⟨"pb", "b0"⟩], true, false,
        none⟩,
      ⟨"pb", "b0", "BetaPanel.xml", .component, false, [], [field "row" ⟨"pb", "b1"⟩], false, false,
        none⟩,
      ⟨"pb", "b1", "Row.xml", .component, false, [], [], false, false, none⟩]
  warnings := []
where
  /-- The package of the outer root panel. -/
  outer : Package :=
    ⟨"pz", "Zeta", ⟨"Zeta"⟩, .ofList [⟨"z0", "ZetaPanel.xml", ⟨"Zeta/ZetaPanel.xml"⟩, true⟩]⟩
  /-- The package of the inner root panel. -/
  inner : Package :=
    ⟨"pb", "Beta", ⟨"Beta"⟩, .ofList [⟨"b0", "BetaPanel.xml", ⟨"Beta/BetaPanel.xml"⟩, false⟩,
      ⟨"b1", "Row.xml", ⟨"Beta/Row.xml"⟩, false⟩]⟩
  /-- A reference to a plain container. -/
  field (name : String) (target : Component.Key) : Member :=
    ⟨.mk "component" (.ofList [("name", name), ("pkg", target.packageId),
      ("src", target.componentId)]) [], true, some (.component target .component "GComponent")⟩

/-- If the inner root panel is walked first, the row below it is passed over under the outer one; if
the packages stand in the other order, it is kept. -/
theorem descendants_lacks_row :
    (∃ panel ∈ (nestedPanels true).walk.panels,
      ∃ s, (nestedPanels true).walk.HangsBelow panel.component s ∧
        s ∉ (nestedPanels true).walk.descendants panel.component) ∧
    ((nestedPanels true).walk.descendants ⟨"pz", "z0"⟩).map SubPanel.component =
      [⟨"pb", "b0"⟩] ∧
    ((nestedPanels false).walk.descendants ⟨"pz", "z0"⟩).map SubPanel.component =
      [⟨"pb", "b0"⟩, ⟨"pb", "b1"⟩] := by
  have hearly : (nestedPanels true).walk =
      ⟨[⟨"pb", "Beta", ⟨"pb", "b0"⟩⟩, ⟨"pz", "Zeta", ⟨"pz", "z0"⟩⟩],
        [⟨⟨"pb", "b1"⟩, "Beta", ⟨"pb", "b0"⟩, "row"⟩,
          ⟨⟨"pb", "b0"⟩, "Beta", ⟨"pz", "z0"⟩, "beta"⟩]⟩ := by cbv
  have hlate : (nestedPanels false).walk =
      ⟨[⟨"pz", "Zeta", ⟨"pz", "z0"⟩⟩, ⟨"pb", "Beta", ⟨"pb", "b0"⟩⟩],
        [⟨⟨"pb", "b0"⟩, "Beta", ⟨"pz", "z0"⟩, "beta"⟩,
          ⟨⟨"pb", "b1"⟩, "Beta", ⟨"pb", "b0"⟩, "row"⟩]⟩ := by cbv
  rw [hearly, hlate]
  refine ⟨⟨_, .tail _ (.head _), ⟨⟨"pb", "b1"⟩, "Beta", ⟨"pb", "b0"⟩, "row"⟩, ?_, by decide⟩,
    by decide, by decide⟩
  exact .under (.direct (.tail _ (.head _)) rfl) (.head _) rfl

end Registry

end UiBinding
