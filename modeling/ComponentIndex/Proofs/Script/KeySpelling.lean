/-
**Keys, however they are written.**

The key of a pair is a name or a string literal, and the same key can be written in many ways.  A
look-up by a key finds the first pair in source order that has it, and nothing else that can stand in
an object literal.  Two trees that differ in the spelling of keys have the same pairs at each key, at
the same places, and so the same strings.

Main definitions:

* `ComponentIndex.Script.Node.IsKeyOf`, `ComponentIndex.Script.Node.IsKeyed` — keys, and pairs with
  them;
* `ComponentIndex.Script.Node.SpellsAlike` — two spellings of one key;
* `ComponentIndex.Script.Node.Respelled` — a tree with other spellings of keys;
* `ComponentIndex.Script.Cursor.Respelled` — a node, found again in such a tree.

Main results:

* `ComponentIndex.Script.Node.findProperty?_eq_some_iff` — **the first pair** with a key;
* `ComponentIndex.Script.Node.respells_iff` — other spellings can be told;
* `ComponentIndex.Script.Node.Respelled.stringProperty?_eq`,
  `ComponentIndex.Script.Node.Respelled.calls_eq` — what is read off a tree;
* `ComponentIndex.Script.Cursor.exists_respelled` — **each node outside of keys** is found again;
* `ComponentIndex.Script.Cursor.Respelled.findProperty?` — **the pair with a key** is found again.
-/

import ComponentIndex.Proofs.Script.Correspondence

set_option relaxedAutoImplicit false
set_option autoImplicit false

namespace ComponentIndex.Script

/-- The texts of nodes of this kind spell something: names, and what string literals are made of. -/
def Kind.isSpelling (kind : Kind) : Bool :=
  kind = .identifier || kind = .propertyIdentifier || kind = .stringFragment ||
    kind = .escapeSequence

namespace Node

/-! ### The first pair with a key -/

/-- The node spells a key: it is a name with that text or a string literal with that value. -/
inductive IsKeyOf (name : Text) (key : Node) : Prop
  | identifier (hkind : key.kind = .propertyIdentifier) (htext : key.text = name)
  | literal (hkind : key.kind = .string) (hvalue : key.stringValue? = some name)

/-- A pair whose key is spelled by a name or a string literal. -/
def IsKeyed (name : Text) (p : Node) : Prop :=
  p.kind = .pair ∧ ∃ key, p.childIn? .key = some key ∧ IsKeyOf name key

/-- The key that a name or a string literal spells. -/
def keyName? (key : Node) : Option Text :=
  if key.kind = .propertyIdentifier then some key.text else key.stringValue?

theorem kind_of_stringValue? {n : Node} {t : Text} (h : n.stringValue? = some t) :
    n.kind = .string := by
  rw [stringValue?] at h
  split at h
  next hkind => exact hkind
  · cases h

theorem keyName?_eq_some_iff {key : Node} {name : Text} :
    key.keyName? = some name ↔ IsKeyOf name key := by
  rw [keyName?]
  constructor
  · intro h
    split at h
    next hkind => exact .identifier hkind (Option.some.inj h)
    · exact .literal (kind_of_stringValue? h) h
  · intro h
    cases h with
    | identifier hkind htext => rw [if_pos hkind, htext]
    | literal hkind hvalue => rw [if_neg (by rw [hkind]; decide), hvalue]

theorem spellsKey_eq_true_iff {key : Node} {name : Text} :
    spellsKey name key = true ↔ IsKeyOf name key := by
  rw [spellsKey, Bool.or_eq_true, Bool.and_eq_true, decide_eq_true_iff, decide_eq_true_iff,
    decide_eq_true_iff]
  constructor
  · rintro (⟨hkind, htext⟩ | hvalue)
    · exact .identifier hkind htext
    · exact .literal (kind_of_stringValue? hvalue) hvalue
  · intro h
    cases h with
    | identifier hkind htext => exact .inl ⟨hkind, htext⟩
    | literal _ hvalue => exact .inr hvalue

theorem hasKey_eq_true_iff {p : Node} {name : Text} : p.hasKey name = true ↔ IsKeyed name p := by
  rw [hasKey, Bool.and_eq_true, decide_eq_true_iff, Option.any_eq_true]
  simp only [spellsKey_eq_true_iff]
  rfl

/-- Of all children of a node only pairs are looked at. -/
theorem findProperty?_eq_find? (o : Node) (name : Text) :
    o.findProperty? name = o.children.find? (hasKey name) := by
  rw [findProperty?, properties, List.find?_filter]
  congr 1
  funext p
  cases hkey : p.hasKey name with
  | false => rw [decide_eq_false (by simp)]
  | true =>
      have hkind : p.kind = .pair := (hasKey_eq_true_iff.1 hkey).1
      rw [hkind]
      rfl

/-- **The first pair** in source order with a key is found. -/
theorem findProperty?_eq_some_iff {o p : Node} {name : Text} :
    o.findProperty? name = some p ↔
      ∃ before after, o.children = before ++ p :: after ∧ IsKeyed name p ∧
        ∀ q ∈ before, ¬IsKeyed name q := by
  rw [findProperty?_eq_find?, List.find?_eq_some_iff_append]
  simp only [Bool.not_eq_true', ← hasKey_eq_true_iff, Bool.not_eq_true]
  constructor
  · rintro ⟨hkeyed, before, after, hchildren, hbefore⟩
    exact ⟨before, after, hchildren, hkeyed, hbefore⟩
  · rintro ⟨before, after, hchildren, hkeyed, hbefore⟩
    exact ⟨hkeyed, before, after, hchildren, hbefore⟩

theorem findProperty?_eq_none_iff {o : Node} {name : Text} :
    o.findProperty? name = none ↔ ∀ q ∈ o.children, ¬IsKeyed name q := by
  rw [findProperty?_eq_find?, List.find?_eq_none]
  simp only [hasKey_eq_true_iff]

/-! ### Trees with other spellings of keys -/

/-- Two nodes stand as keys and spell the same one. -/
def SpellsAlike (key key' : Node) : Prop :=
  key.role = some .key ∧ key'.role = some .key ∧ ∃ name, IsKeyOf name key ∧ IsKeyOf name key'

mutual

/-- The second tree is the first one with other spellings of keys. Nodes may have moved, and only
texts that spell something are still the same. -/
inductive Respelled : Node → Node → Prop
  | node {kind : Kind} {role : Option Role} {start start' : Nat} {text text' : Text}
      {children children' : List Node} (htext : kind.isSpelling = true → text' = text)
      (hchildren : RespelledAll (decide (kind = .pair)) children children') :
      Respelled ⟨kind, role, start, text, children⟩ ⟨kind, role, start', text', children'⟩

/-- The second list is the first one with other spellings of keys in its trees and, if these are the
children of a pair, of the key among them. -/
inductive RespelledAll : Bool → List Node → List Node → Prop
  | nil {isPair : Bool} : RespelledAll isPair [] []
  | cons {isPair : Bool} {n n' : Node} {ns ns' : List Node} (hhead : Respelled n n')
      (htail : RespelledAll isPair ns ns') : RespelledAll isPair (n :: ns) (n' :: ns')
  | key {isPair : Bool} {key key' : Node} {ns ns' : List Node} (hpair : isPair = true)
      (halike : SpellsAlike key key') (htail : RespelledAll isPair ns ns') :
      RespelledAll isPair (key :: ns) (key' :: ns')

end

/-- Two nodes are found to stand as keys and to spell the same one. -/
def spellAlike (key key' : Node) : Bool :=
  key.role = some .key && key'.role = some .key && key.keyName?.isSome &&
    key'.keyName? = key.keyName?

theorem spellAlike_iff {key key' : Node} : spellAlike key key' = true ↔ SpellsAlike key key' := by
  rw [spellAlike, SpellsAlike, Bool.and_eq_true, Bool.and_eq_true, Bool.and_eq_true,
    decide_eq_true_iff, decide_eq_true_iff, decide_eq_true_iff, Option.isSome_iff_exists]
  constructor
  · rintro ⟨⟨⟨hrole, hrole'⟩, name, hname⟩, hsame⟩
    exact ⟨hrole, hrole', name, keyName?_eq_some_iff.1 hname,
      keyName?_eq_some_iff.1 (hsame.trans hname)⟩
  · rintro ⟨hrole, hrole', name, hname, hname'⟩
    rw [← keyName?_eq_some_iff] at hname hname'
    exact ⟨⟨⟨hrole, hrole'⟩, name, hname⟩, hname'.trans hname.symm⟩

mutual

/-- The second tree is found to be the first one with other spellings of keys. -/
def respells : Node → Node → Bool
  | ⟨kind, role, _, text, children⟩, ⟨kind', role', _, text', children'⟩ =>
    kind = kind' && role = role' && (!kind.isSpelling || text' = text) &&
      respellsAll (decide (kind = .pair)) children children'

/-- The second list is found to be the first one with other spellings of keys. -/
def respellsAll (isPair : Bool) : List Node → List Node → Bool
  | [], [] => true
  | [], _ :: _ => false
  | _ :: _, [] => false
  | n :: ns, n' :: ns' =>
    (respells n n' || isPair && spellAlike n n') && respellsAll isPair ns ns'

end

mutual

/-- Whether a tree has **other spellings of keys** only can be told. -/
theorem respells_iff : ∀ {n n' : Node}, respells n n' = true ↔ Respelled n n'
  | ⟨kind, role, _, text, children⟩, ⟨kind', role', _, text', children'⟩ => by
    rw [respells, Bool.and_eq_true, Bool.and_eq_true, Bool.and_eq_true, decide_eq_true_iff,
      decide_eq_true_iff, respellsAll_iff]
    constructor
    · rintro ⟨⟨⟨rfl, rfl⟩, htext⟩, hchildren⟩
      refine .node (fun hspelling => ?_) hchildren
      rw [hspelling] at htext
      simpa using htext
    · intro h
      cases h with
      | node htext hchildren =>
          refine ⟨⟨⟨rfl, rfl⟩, ?_⟩, hchildren⟩
          cases hspelling : kind.isSpelling with
          | false => rfl
          | true => simpa using htext hspelling

theorem respellsAll_iff : ∀ {isPair : Bool} {ns ns' : List Node},
    respellsAll isPair ns ns' = true ↔ RespelledAll isPair ns ns'
  | _, [], [] => by
    rw [respellsAll]
    exact ⟨fun _ => .nil, fun _ => rfl⟩
  | _, [], _ :: _ => by
    rw [respellsAll]
    exact ⟨nofun, nofun⟩
  | _, _ :: _, [] => by
    rw [respellsAll]
    exact ⟨nofun, nofun⟩
  | _, n :: ns, n' :: ns' => by
    rw [respellsAll, Bool.and_eq_true, Bool.or_eq_true, Bool.and_eq_true, respells_iff,
      spellAlike_iff, respellsAll_iff]
    constructor
    · rintro ⟨hhead | ⟨hpair, halike⟩, htail⟩
      · exact .cons hhead htail
      · exact .key hpair halike htail
    · intro h
      cases h with
      | cons hhead htail => exact ⟨.inl hhead, htail⟩
      | key hpair halike htail => exact ⟨.inr ⟨hpair, halike⟩, htail⟩

end

instance (n n' : Node) : Decidable (Respelled n n') := decidable_of_iff _ respells_iff

/-! ### What is read off a tree -/

section

variable {n n' : Node}

theorem Respelled.kind_eq (h : Respelled n n') : n'.kind = n.kind := by
  cases h
  rfl

theorem Respelled.role_eq (h : Respelled n n') : n'.role = n.role := by
  cases h
  rfl

theorem Respelled.text_eq (h : Respelled n n') (hspelling : n.kind.isSpelling = true) :
    n'.text = n.text := by
  cases h with
  | node htext _ => exact htext hspelling

theorem SpellsAlike.symm (h : SpellsAlike n n') : SpellsAlike n' n := by
  obtain ⟨hrole, hrole', name, hname, hname'⟩ := h
  exact ⟨hrole', hrole, name, hname', hname⟩

mutual

/-- Spellings can be changed back. -/
theorem Respelled.symm : ∀ {n n' : Node}, Respelled n n' → Respelled n' n
  | _, _, .node htext hchildren => .node (fun hspelling => (htext hspelling).symm) hchildren.symm

theorem RespelledAll.symm : ∀ {isPair : Bool} {ns ns' : List Node},
    RespelledAll isPair ns ns' → RespelledAll isPair ns' ns
  | _, _, _, .nil => .nil
  | _, _, _, .cons hhead htail => .cons hhead.symm htail.symm
  | _, _, _, .key hpair halike htail => .key hpair halike.symm htail.symm

end

/-- Children of anything but a pair stay side by side. -/
theorem RespelledAll.forall₂ : ∀ {ns ns' : List Node}, RespelledAll false ns ns' →
    List.Forall₂ Respelled ns ns'
  | _, _, .nil => .nil
  | _, _, .cons hhead htail => .cons hhead htail.forall₂

theorem Respelled.children (h : Respelled n n') (hkind : n.kind ≠ .pair) :
    List.Forall₂ Respelled n.children n'.children := by
  cases h with
  | node _ hchildren =>
      rw [decide_eq_false hkind] at hchildren
      exact hchildren.forall₂

/-! #### Strings and keys -/

theorem Respelled.fragmentValue_eq (h : Respelled n n') : n'.fragmentValue = n.fragmentValue := by
  rw [fragmentValue, fragmentValue, h.kind_eq]
  split
  next hkind => exact h.text_eq (by rw [hkind]; rfl)
  next hkind => rw [h.text_eq (by rw [hkind]; rfl)]
  · rfl

theorem flatMap_fragmentValue_eq {ns ns' : List Node} (h : List.Forall₂ Respelled ns ns') :
    ns'.flatMap fragmentValue = ns.flatMap fragmentValue := by
  induction h with
  | nil => rfl
  | cons hhead _ ih => rw [List.flatMap_cons, List.flatMap_cons, hhead.fragmentValue_eq, ih]

theorem Respelled.stringValue?_eq (h : Respelled n n') : n'.stringValue? = n.stringValue? := by
  rw [stringValue?, stringValue?, h.kind_eq]
  split
  next hkind =>
    have hchildren := h.children (by rw [hkind]; decide)
    rw [spelledValue, spelledValue, flatMap_fragmentValue_eq hchildren]
  · rfl

theorem Respelled.keyName?_eq (h : Respelled n n') : n'.keyName? = n.keyName? := by
  rw [keyName?, keyName?, h.kind_eq, h.stringValue?_eq]
  split
  next hkind => rw [h.text_eq (by rw [hkind]; rfl)]
  · rfl

theorem SpellsAlike.keyName?_eq (h : SpellsAlike n n') : n'.keyName? = n.keyName? := by
  obtain ⟨-, -, name, hname, hname'⟩ := h
  rw [keyName?_eq_some_iff.2 hname, keyName?_eq_some_iff.2 hname']

/-- The node is found again, or it is a key that the other node spells too. -/
def Matches (n n' : Node) : Prop := Respelled n n' ∨ SpellsAlike n n'

theorem Matches.role_eq (h : Matches n n') : n'.role = n.role := by
  rcases h with h | ⟨hrole, hrole', -⟩
  · exact h.role_eq
  · exact hrole'.trans hrole.symm

theorem Matches.keyName?_eq (h : Matches n n') : n'.keyName? = n.keyName? :=
  h.elim Respelled.keyName?_eq SpellsAlike.keyName?_eq

theorem RespelledAll.matches : ∀ {isPair : Bool} {ns ns' : List Node},
    RespelledAll isPair ns ns' → List.Forall₂ Matches ns ns'
  | _, _, _, .nil => .nil
  | _, _, _, .cons hhead htail => .cons (.inl hhead) htail.matches
  | _, _, _, .key _ halike htail => .cons (.inr halike) htail.matches

theorem Respelled.matches_children (h : Respelled n n') :
    List.Forall₂ Matches n.children n'.children := by
  cases h with
  | node _ hchildren => exact hchildren.matches

theorem Respelled.matches_childIn? (h : Respelled n n') (role : Role) :
    Option.Rel Matches (n.childIn? role) (n'.childIn? role) :=
  forall₂_find? (fun _ _ hchild => by rw [hchild.role_eq]) h.matches_children

/-- A child in another role than that of a key is found again. -/
theorem Respelled.childIn? (h : Respelled n n') {role : Role} (hrole : role ≠ .key) :
    Option.Rel Respelled (n.childIn? role) (n'.childIn? role) := by
  refine rel_imp_of_eq_some (fun c c' hc hmatches => ?_) (h.matches_childIn? role)
  -- Only keys are exchanged, and the child is found by another role.
  have hplays : c.role = some role := by
    rw [Node.childIn?] at hc
    simpa using List.find?_some hc
  exact hmatches.resolve_right fun halike => hrole (Option.some.inj (hplays.symm.trans halike.1))

/-! #### Pairs -/

/-- A pair has the same keys, however they are spelled. -/
theorem Respelled.hasKey_eq (h : Respelled n n') (name : Text) :
    n'.hasKey name = n.hasKey name := by
  have hspells : ∀ key key', Matches key key' → spellsKey name key' = spellsKey name key := by
    intro key key' hmatches
    rw [Bool.eq_iff_iff, spellsKey_eq_true_iff, spellsKey_eq_true_iff, ← keyName?_eq_some_iff,
      ← keyName?_eq_some_iff, hmatches.keyName?_eq]
  rw [hasKey, hasKey, h.kind_eq, any_eq_of_rel hspells (h.matches_childIn? .key)]

/-- The pair with a key is found again. -/
theorem Respelled.findProperty? (h : Respelled n n') (hkind : n.kind ≠ .pair) (name : Text) :
    Option.Rel Respelled (n.findProperty? name) (n'.findProperty? name) := by
  rw [findProperty?_eq_find?, findProperty?_eq_find?]
  exact forall₂_find? (fun _ _ hchild => hchild.hasKey_eq name) (h.children hkind)

/-- **The string at a key** is the same in both trees. -/
theorem Respelled.stringProperty?_eq (h : Respelled n n') (hkind : n.kind ≠ .pair) (name : Text) :
    n'.stringProperty? name = n.stringProperty? name := by
  have hvalue : Option.Rel Respelled (n.findPropertyValue? name) (n'.findPropertyValue? name) :=
    rel_bind (h.findProperty? hkind name) fun _ _ hpair => hpair.childIn? (by decide)
  exact bind_eq_of_rel (fun _ _ hsame => hsame.stringValue?_eq) hvalue

/-! #### References -/

theorem any_kind_eq {ns ns' : List Node} (h : List.Forall₂ Respelled ns ns') (kind : Kind) :
    (ns'.any fun c => c.kind = kind) = ns.any fun c => c.kind = kind := by
  induction h with
  | nil => rfl
  | cons hhead _ ih => rw [List.any_cons, List.any_cons, hhead.kind_eq, ih]

/-- A reference stays one, as it holds no keys. -/
theorem IsReference.respelled {names : List Text} (hnames : n.IsReference names)
    (h : Respelled n n') : n'.IsReference names := by
  induction hnames generalizing n' with
  | identifier hkind =>
      rw [← h.text_eq (by rw [hkind]; rfl)]
      exact .identifier (h.kind_eq.trans hkind)
  | @member n object property names hkind hlink hproperty hname hobject _ ih =>
      have hlink' : ∀ c ∈ n'.children, c.kind ≠ .optionalChain := by
        intro c' hc' hkind'
        have hany : (n'.children.any fun c => c.kind = .optionalChain) = true :=
          List.any_eq_true.2 ⟨c', hc', decide_eq_true hkind'⟩
        rw [any_kind_eq (h.children (by rw [hkind]; decide))] at hany
        obtain ⟨c, hc, hlinked⟩ := List.any_eq_true.1 hany
        exact hlink c hc (of_decide_eq_true hlinked)
      obtain ⟨property', hproperty', hsame⟩ :=
        exists_of_rel (h.childIn? (by decide)) hproperty
      obtain ⟨object', hobject', hsame'⟩ := exists_of_rel (h.childIn? (by decide)) hobject
      rw [← hsame.text_eq (by rw [hname]; rfl)]
      exact .member (h.kind_eq.trans hkind) hlink' hproperty' (hsame.kind_eq.trans hname) hobject'
        (ih hsame')

theorem Applies.respelled {role : Role} {names : List Text} (hnames : n.Applies role names)
    (hrole : role ≠ .key) (h : Respelled n n') : n'.Applies role names := by
  obtain ⟨callee, hcallee, hreference⟩ := hnames
  obtain ⟨callee', hcallee', hsame⟩ := exists_of_rel (h.childIn? hrole) hcallee
  exact ⟨callee', hcallee', hreference.respelled hsame⟩

theorem calls_of_respelled {names : List Text} (hnames : n.calls names = true)
    (h : Respelled n n') : n'.calls names = true := by
  rw [calls_iff] at hnames ⊢
  rw [h.kind_eq]
  exact hnames.imp (And.imp_right fun hcall => hcall.respelled (by decide) h)
    (And.imp_right fun hnew => hnew.respelled (by decide) h)

/-- What a call applies is the same in both trees. -/
theorem Respelled.calls_eq (h : Respelled n n') (names : List Text) :
    n'.calls names = n.calls names :=
  Bool.eq_iff_iff.2 ⟨fun h' => calls_of_respelled h' h.symm, fun h' => calls_of_respelled h' h⟩

end

end Node

namespace Cursor

/-! ### Nodes that are found again -/

/-- A node of a tree, found again at the same place of the tree with other spellings of keys, with
all nodes on the way to it. -/
structure Respelled (c c' : Cursor) : Prop where
  /-- Below the nodes keys may be spelled otherwise. -/
  node : c.node.Respelled c'.node
  /-- The ways to the nodes take the same steps. -/
  crumbs : List.Forall₂ (fun a b => a.parent.Respelled b.parent ∧ b.index = a.index) c.crumbs
    c'.crumbs

section

variable {c c' : Cursor}

theorem Respelled.kind_eq (h : c.Respelled c') : c'.kind = c.kind := h.node.kind_eq

theorem Respelled.path_eq (h : c.Respelled c') : c'.path = c.path := by
  have hcrumbs := h.crumbs
  rw [path, path]
  generalize c.crumbs = crumbs, c'.crumbs = crumbs' at hcrumbs
  induction hcrumbs with
  | nil => rfl
  | cons hhead _ ih => rw [List.map_cons, List.map_cons, hhead.2, ih]

theorem Respelled.isSame_eq {d d' : Cursor} (h : c.Respelled c') (hd : d.Respelled d') :
    c'.isSame d' = c.isSame d := by
  rw [isSame, isSame, h.path_eq, hd.path_eq]

theorem Respelled.parent? (h : c.Respelled c') : Option.Rel Respelled c.parent? c'.parent? := by
  obtain ⟨n, crumbs⟩ := c
  obtain ⟨n', crumbs'⟩ := c'
  cases h.crumbs with
  | nil => exact .none
  | cons hhead htail => exact .some ⟨hhead.1, htail⟩

theorem Respelled.childrenFrom (h : c.Respelled c') (index : Nat) {ns ns' : List Node}
    (hchildren : List.Forall₂ Node.Respelled ns ns') :
    List.Forall₂ Respelled (c.childrenFrom index ns) (c'.childrenFrom index ns') := by
  induction hchildren generalizing index with
  | nil => exact .nil
  | cons hhead _ ih => exact .cons ⟨hhead, .cons ⟨h.node, rfl⟩ h.crumbs⟩ (ih (index + 1))

theorem Respelled.children (h : c.Respelled c') (hkind : c.kind ≠ .pair) :
    List.Forall₂ Respelled c.children c'.children :=
  h.childrenFrom 0 (h.node.children hkind)

theorem Respelled.childIn? (h : c.Respelled c') (hkind : c.kind ≠ .pair) (role : Role) :
    Option.Rel Respelled (c.childIn? role) (c'.childIn? role) :=
  forall₂_find? (fun _ _ hchild => by rw [hchild.node.role_eq]) (h.children hkind)

theorem Respelled.significantChildren (h : c.Respelled c') (hkind : c.kind ≠ .pair) :
    List.Forall₂ Respelled c.significantChildren c'.significantChildren := by
  rw [significantChildren_eq_filter, significantChildren_eq_filter]
  exact forall₂_filter (fun _ _ hchild => by rw [hchild.kind_eq]) (h.children hkind)

/-- The arguments of a call are found again. -/
theorem Respelled.callArguments (h : c.Respelled c') (hkind : c.kind ≠ .pair) :
    List.Forall₂ Respelled c.callArguments c'.callArguments := by
  have hargs := h.childIn? hkind .arguments
  rw [Cursor.callArguments, Cursor.callArguments]
  generalize c.childIn? .arguments = args?, c'.childIn? .arguments = args?' at hargs
  cases hargs with
  | none => exact .nil
  | some hargs =>
      simp only [hargs.kind_eq]
      split
      next hkind => exact hargs.significantChildren (by rw [hkind]; decide)
      · exact .nil

/-- **The pair with a key** is found again, at the same place. -/
theorem Respelled.findProperty? (h : c.Respelled c') (hkind : c.kind ≠ .pair) (name : Text) :
    Option.Rel Respelled (c.findProperty? name) (c'.findProperty? name) := by
  have hproperties : List.Forall₂ Respelled c.properties c'.properties :=
    forall₂_filter (fun _ _ hchild => by rw [hchild.kind_eq]) (h.children hkind)
  exact forall₂_find? (fun _ _ hproperty => hproperty.node.hasKey_eq name) hproperties

end

/-- **Each node outside of keys** is found again in a tree with other spellings of keys. -/
theorem exists_respelled {tree tree' : Node} (htree : tree.Respelled tree') {c : Cursor}
    (hc : c.IsIn tree)
    (hkeys : ∀ a ∈ c :: c.ancestors, a.kind ≠ .propertyIdentifier ∧ a.kind ≠ .string) :
    ∃ c', c'.IsIn tree' ∧ c.Respelled c' := by
  -- Down the way from the root: once the parent is found again, so is the child at the same index.
  obtain ⟨n, crumbs⟩ := c
  induction crumbs generalizing n with
  | nil =>
      obtain rfl : n = tree := hc
      exact ⟨root tree', isIn_root tree', htree, .nil⟩
  | cons crumb crumbs ih =>
      obtain ⟨hn, hparent⟩ := hc
      rw [List.forall_mem_cons] at hkeys
      obtain ⟨⟨hname, hliteral⟩, hkeys⟩ := hkeys
      obtain ⟨p', hp', hsame⟩ := ih crumb.parent hparent hkeys
      obtain ⟨n', hn', hmatches⟩ :=
        exists_of_rel (forall₂_getElem? hsame.node.matches_children crumb.index) hn
      -- The child spells no key, so it is not one that is spelled otherwise.
      have hfound : n.Respelled n' := by
        refine hmatches.resolve_right ?_
        rintro ⟨-, -, name, hkey, -⟩
        cases hkey with
        | identifier hkind => exact hname hkind
        | literal hkind => exact hliteral hkind
      exact ⟨p'.child crumb.index n', hp'.of_mem_children (mem_children_iff.2 ⟨_, n', hn', rfl⟩),
        hfound, .cons ⟨hsame.node, rfl⟩ hsame.crumbs⟩

end Cursor

end ComponentIndex.Script
