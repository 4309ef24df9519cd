import LayerHeaders.Proofs.Header.Alike
import LayerHeaders.Proofs.Registry.Redeclaration
import LayerHeaders.Proofs.Registry.Section

/-!
# Commands of the safety-critical profile

A declaration for the safety-critical API alone may be put anywhere into the section of commands, before
or after a standard one of its name, and it may be an alias that leads nowhere. The document can still be
read, and its headers stay the same: the declaration is restricted itself, and no name that was declared
leads to it.

* `exists_indexCommands_insert`: one more such declaration can be indexed.
* `declaration?_insert`: what is declared leads to the same declaration as before.
* `header_of_command_added`: no header changes.
-/

namespace LayerHeaders

variable {d : Dialect} {l₁ l₂ index index' : List Command} {c : Command}

/-! ## One more declaration -/

/-- An item that fails a test does not change what is found. -/
theorem find?_insert_of_neg {α : Type} {p : α → Bool} {a : α} (ha : p a = false) (l₁ l₂ : List α) :
    (l₁ ++ a :: l₂).find? p = (l₁ ++ l₂).find? p := by
  rw [List.find?_append, List.find?_append, List.find?_cons_of_neg (by simp [ha])]

/-- An item that is not counted and does not stop changes no number of items before a stop. -/
theorem countP_takeWhile_insert {α : Type} {p q : α → Bool} {a : α} (hp : p a = true)
    (hq : q a = false) (l₁ l₂ : List α) :
    ((l₁ ++ a :: l₂).takeWhile p).countP q = ((l₁ ++ l₂).takeWhile p).countP q := by
  induction l₁ with
  | nil =>
      rw [List.nil_append, List.nil_append, List.takeWhile_cons_of_pos hp,
        List.countP_cons_of_neg (by simp [hq])]
  | cons b l₁ ih =>
      by_cases hb : p b = true
      · simp only [List.cons_append, List.takeWhile_cons_of_pos hb, List.countP_cons, ih]
      · simp only [List.cons_append, List.takeWhile_cons_of_neg hb]

/-- A declaration is not a standard one of any name if it is safety-critical. -/
theorem Command.declares_true_of_not_standard (hc : c.isStandard d = false) (name : String) :
    c.declares d name true = false := by
  simp [Command.declares, hc]

/-- **No name is redeclared** by a safety-critical declaration that is the first of its name. -/
theorem not_redeclares_insert (hc : c.isStandard d = false)
    (hnew : ∀ a ∈ l₁ ++ l₂, a.declares d c.name false = false)
    (h : ∀ name, ¬ d.Redeclares (l₁ ++ l₂) name) (name : String) :
    ¬ d.Redeclares (l₁ ++ c :: l₂) name := by
  have hstandard := c.declares_true_of_not_standard hc name
  rintro (htwice | htwice)
  · refine h name (Or.inl ?_)
    rw [List.countP_append, List.countP_cons_of_neg (by simp [hstandard])] at htwice
    rwa [List.countP_append]
  · by_cases hname : c.name = name
    · -- it is the only safety-critical declaration of its name
      have hle := (List.takeWhile_sublist (l := l₁ ++ c :: l₂)
        (fun a => !a.declares d name true)).countP_le (p := (·.declares d name false))
      have hnone : (l₁ ++ l₂).countP (·.declares d name false) = 0 := by
        rw [List.countP_eq_zero, ← hname]
        intro a ha
        simp [hnew a ha]
      have hone : (l₁ ++ c :: l₂).countP (·.declares d name false) ≤ 1 := by
        rw [List.countP_append, List.countP_cons]
        rw [List.countP_append] at hnone
        split_ifs <;> omega
      unfold Dialect.beforeStandard at htwice
      omega
    · have hother : c.declares d name false = false := by
        simp [Command.declares, hname]
      refine h name (Or.inr ?_)
      unfold Dialect.beforeStandard at htwice ⊢
      rwa [countP_takeWhile_insert (by simp [hstandard]) hother] at htwice

/-- **One more declaration can be indexed.** -/
theorem exists_indexCommands_insert (hc : c.isStandard d = false)
    (hnew : ∀ a ∈ l₁ ++ l₂, a.declares d c.name false = false)
    (hindex : indexCommands d (l₁ ++ l₂) = .ok index) :
    ∃ index', indexCommands d (l₁ ++ c :: l₂) = .ok index' := by
  rcases hinsert : indexCommands d (l₁ ++ c :: l₂) with e | index'
  · obtain ⟨before, b, after, hsplit, -, hrepeats, -⟩ := indexCommands_eq_error_iff.1 hinsert
    obtain ⟨name, hredeclares⟩ := exists_repeats_iff.1 ⟨before, b, after, hsplit, hrepeats⟩
    refine absurd hredeclares (not_redeclares_insert hc hnew (fun name hname => ?_) name)
    obtain ⟨n, hn⟩ := exists_indexCommands_eq_error_iff.2 (exists_repeats_iff.2 ⟨name, hname⟩)
    rw [hindex] at hn
    cases hn
  · exact ⟨index', rfl⟩

/-- **What is declared leads to the same declaration as before.** -/
theorem declaration?_insert (hc : c.isStandard d = false)
    (hnew : ∀ a ∈ l₁ ++ l₂, a.declares d c.name false = false) {name : String} {a : Command}
    (ha : d.declaration? (l₁ ++ l₂) name = some a) : d.declaration? (l₁ ++ c :: l₂) name = some a := by
  have hstandard := c.declares_true_of_not_standard hc name
  unfold Dialect.declaration? at ha ⊢
  rw [find?_insert_of_neg hstandard]
  rw [Option.or_eq_some_iff] at ha ⊢
  rcases ha with ha | ⟨hnone, ha⟩
  · exact Or.inl ha
  · refine Or.inr ⟨hnone, ?_⟩
    have hother : c.declares d name false = false := by
      by_contra hdecl
      rw [Bool.not_eq_false] at hdecl
      obtain ⟨rfl, -⟩ := Command.declares_iff.1 hdecl
      have hfound := List.find?_some ha
      rw [hnew a (List.mem_of_find?_eq_some ha)] at hfound
      cases hfound
    rwa [find?_insert_of_neg hother]

/-- **One more declaration keeps the others of a registry.** -/
theorem Registry.keeps_insert {r : Registry} (hcommands : r.commands = l₁ ++ l₂)
    (hc : c.isStandard r.dialect = false)
    (hnew : ∀ a ∈ l₁ ++ l₂, a.declares r.dialect c.name false = false)
    (hindex : indexCommands r.dialect (l₁ ++ l₂) = .ok r.index)
    (hindex' : indexCommands r.dialect (l₁ ++ c :: l₂) = .ok index') :
    r.Keeps (l₁ ++ c :: l₂) index' where
  standard := by
    have hrestricted : r.isRestricted c = true := by
      have hsafety : r.dialect.isSafetyCritical c.api? = true := by
        simpa [Command.isStandard] using hc
      rw [Registry.isRestricted, hsafety, Bool.true_or]
    have hkept : (l₁ ++ c :: l₂).filter (!r.isRestricted ·) = (l₁ ++ l₂).filter (!r.isRestricted ·) := by
      rw [List.filter_append, List.filter_append, List.filter_cons_of_neg (by simp [hrestricted])]
    show List.Forall₂ Command.Alike _ ((l₁ ++ c :: l₂).filter (!r.isRestricted ·))
    rw [hcommands, hkept, List.forall₂_same]
    exact fun a _ => .refl a
  found := by
    intro name a ha
    refine ⟨a, ?_, .refl a⟩
    unfold Registry.command? at ha ⊢
    rw [(indexes_of_indexCommands hindex).find?_eq] at ha
    show index'.find? (·.name = name) = some a
    rw [(indexes_of_indexCommands hindex').find?_eq]
    exact declaration?_insert hc hnew ha

/-! ## One more declaration in a document -/

open Xml (Element OpenElement)

/-- **A safety-critical declaration changes no header.** A declaration for the safety-critical API alone,
put anywhere into the section of commands of a document that can be read, gives a document that can be
read, if it is the first such declaration of its name. It stands among the commands at its place, and
every header that could be made stays the same. -/
theorem header_of_command_added {before declaration after : String} {commands root : OpenElement}
    {e : Element} {c : Command} {r : Registry} (hr : Registry.read d (before ++ after) = .ok r)
    (hbefore : BreaksOffInCommands before [] commands root)
    (hdeclaration : Xml.IsMarkup declaration [.element e.tag e.children]) (he : e.name = "command")
    (hc : Command.read d e = .ok c) (hsafety : d.isSafetyCritical c.api? = true)
    (hnew : ∀ a ∈ r.commands, a.name = c.name → d.isSafetyCritical a.api? = false) :
    ∃ r', Registry.read d (before ++ declaration ++ after) = .ok r' ∧
      (∃ l₁ l₂, r.commands = l₁ ++ l₂ ∧ r'.commands = l₁ ++ c :: l₂) ∧
      ∀ (kind : HeaderKind) (h : Header), kind.header r = .ok h → kind.header r' = .ok h := by
  obtain ⟨tree, htree, hread⟩ := bind_eq_ok_iff.1 hr
  obtain ⟨rest, children, surroundings, houter, hmeet, rfl, hparse⟩ :=
    Xml.parse_insert hbefore.breaksOff hdeclaration (mapError_eq_ok_iff.1 htree)
  obtain ⟨s, rfl, rfl⟩ : ∃ s : Xml.Surrounding, surroundings = [s] ∧ s.opened = root := by
    simpa [List.map_eq_cons_iff] using houter
  obtain ⟨hlisted, hindex, rfl, hagain⟩ :=
    Registry.ofElement_around (e := ⟨commands.tag, children⟩) hread hbefore.name hbefore.first
  obtain ⟨l₁, l₂, hcommands, hlisted'⟩ := readCommands_insert hmeet hlisted he hc
  have hstandard : c.isStandard r.dialect = false := by
    simp [Command.isStandard, hsafety]
  have hfirst : ∀ a ∈ l₁ ++ l₂, a.declares r.dialect c.name false = false := by
    intro a ha
    by_contra hdecl
    rw [Bool.not_eq_false] at hdecl
    obtain ⟨hname, hkind⟩ := Command.declares_iff.1 hdecl
    rw [← hcommands] at ha
    simp [Command.isStandard, hnew a ha hname] at hkind
  rw [hcommands] at hindex
  obtain ⟨index', hindex'⟩ := exists_indexCommands_insert hstandard hfirst hindex
  refine ⟨r.redeclare (l₁ ++ c :: l₂) index', ?_, ⟨l₁, l₂, hcommands, rfl⟩, fun kind h hh => ?_⟩
  · refine bind_eq_ok_iff.2 ⟨_, mapError_eq_ok_iff.2 hparse, ?_⟩
    exact hagain ⟨commands.tag, _⟩ _ _ hbefore.name hlisted' hindex'
  · exact (Registry.keeps_insert hcommands hstandard hfirst hindex hindex').header kind hh

/-- A safety-critical alias that leads nowhere, declared before the standard command of its name, is not
seen in any header. -/
theorem header_of_command_added_sample :
    (∀ kind : HeaderKind, ∃ h, kind.header (Parted.registry [Parted.device]) = .ok h) ∧
      ∃ r', Registry.read {} (Parted.opening ++
          "<command api=\"vulkansc\" name=\"vkTrim\" alias=\"vkLost\"/>" ++
          (Parted.definition ++ (Parted.parameter ++ Parted.closing))) = .ok r' ∧
        (∃ l₁ l₂, (Parted.registry [Parted.device]).commands = l₁ ++ l₂ ∧
          r'.commands = l₁ ++ ⟨"vkTrim", some "vulkansc", .sameAs "vkLost"⟩ :: l₂) ∧
        ∀ (kind : HeaderKind) (h : Header), kind.header (Parted.registry [Parted.device]) = .ok h →
          kind.header r' = .ok h := by
  let e : Element :=
    ⟨⟨"command", [("api", "vulkansc"), ("name", "vkTrim"), ("alias", "vkLost")]⟩, []⟩
  have hdeclaration : Xml.IsMarkup "<command api=\"vulkansc\" name=\"vkTrim\" alias=\"vkLost\"/>"
      [.element e.tag e.children] :=
    ⟨[.empty "command api=\"vulkansc\" name=\"vkTrim\" alias=\"vkLost\"".toList], by decide +kernel,
      ⟨_, rfl, rfl⟩, ⟨_, rfl, rfl⟩, fun _ _ _ => rfl⟩
  have hc : Command.read {} e = .ok ⟨"vkTrim", some "vulkansc", .sameAs "vkLost"⟩ := by
    decide +kernel
  refine ⟨fun kind => exists_eq_ok_of_isOk ?_, ?_⟩
  · cases kind <;> decide +kernel
  · exact header_of_command_added Parted.read_document Parted.breaksOff_opening hdeclaration rfl hc
      (by decide +kernel) (by decide +kernel)

end LayerHeaders
