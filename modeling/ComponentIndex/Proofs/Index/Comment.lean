/-
**Comments in scripts.**

Comments never change what is found.  Wherever they are inserted, a property opens the same descriptor,
the same literals are kept, and a call refers to the same names and has the same arguments; so a file
has the same elements and its stub the same literals.  Comments in the collection of a loop change
neither the collection nor the type of its elements, as long as they stand inside of its parentheses.

Main definitions:

* `ComponentIndex.DecidedAlike` — all decisions about a node, and about the node it corresponds to,
  are the same.

Main results:

* `ComponentIndex.Script.Cursor.Corresponds.decidedAlike` — **decisions about corresponding nodes**;
* `ComponentIndex.FileIndex.payload_of_commented`, `ComponentIndex.FileIndex.stubs_of_commented` — the
  elements of a file and the literals of its stub;
* `ComponentIndex.Loop.Expression.reference?_of_commented` — the collection of a loop;
* `ComponentIndex.decidedAlike_of_commented` — **comments do not matter**, all in all.
-/

import ComponentIndex.Proofs.Descriptor.Faithful
import ComponentIndex.Proofs.Index.Collect
import ComponentIndex.Proofs.Script.Correspondence

set_option relaxedAutoImplicit false
set_option autoImplicit false

namespace ComponentIndex

open Script (Cursor Kind Node)
open Script.Cursor (Corresponds)

section

variable {opens : Kind → Bool} {tree tree' : Node} {file file' : SourceFile} {c c' : Cursor}

/-! ### Decisions about corresponding nodes -/

/-- The name and the type of a file decide which descriptor a property of it opens. -/
theorem Descriptor.ofProperty?_congr (hpath : file'.path = file.path)
    (htype : file'.fileType = file.fileType) (property : Cursor) :
    ofProperty? property file' = ofProperty? property file := by
  obtain ⟨path, fileType, _, _, _⟩ := file
  obtain ⟨_, _, _, _, _⟩ := file'
  subst hpath htype
  rfl

/-- The type of a file decides what is significant in it. -/
theorem Stub.isSignificant_congr (htype : file'.fileType = file.fileType) (c : Cursor) :
    isSignificant c file' = isSignificant c file := by
  rw [isSignificant, isSignificant]
  simp only [SourceFile.isComponent, htype]

namespace Script.Cursor.Corresponds

/-- **Corresponding properties** open the same descriptor. -/
theorem ofProperty?_eq (h : Corresponds opens tree tree' c c') (file : SourceFile) :
    Descriptor.ofProperty? c' file = Descriptor.ofProperty? c file := by
  cases hkind : c.kind.isProperty with
  | true =>
      have hcomment : c.kind ≠ .comment := Kind.ne_of_test hkind rfl
      have hcomment' : c'.kind ≠ .comment := by rwa [h.kind_eq]
      rw [← Descriptor.ofProperty?_map (isFaithful_bare tree) h.isIn (Node.isAside_of_kind hcomment),
        ← Descriptor.ofProperty?_map (isFaithful_bare tree') h.isIn' (Node.isAside_of_kind hcomment'),
        h.bare_eq]
  | false =>
      have hkind' : c'.kind.isProperty = false := by rwa [h.kind_eq]
      rw [Descriptor.ofProperty?, Descriptor.ofProperty?,
        Descriptor.openedObject?_eq_none h.isIn hkind,
        Descriptor.openedObject?_eq_none h.isIn' hkind']

/-- Corresponding nodes stand inside of a descriptor alike. -/
theorem isInsideDescriptor_eq (h : Corresponds opens tree tree' c c') :
    Stub.isInsideDescriptor c' = Stub.isInsideDescriptor c := by
  rw [← Stub.isInsideDescriptor_map (isFaithful_bare tree) h.isIn,
    ← Stub.isInsideDescriptor_map (isFaithful_bare tree') h.isIn', h.bare_eq]

/-- Corresponding nodes have parents alike, which have the same kind. -/
theorem map_kind_parent? (h : Corresponds opens tree tree' c c') :
    c'.parent?.map Cursor.kind = c.parent?.map Cursor.kind := by
  have hparent : c'.parent?.map bare = c.parent?.map bare := by
    rw [← parent?_bare, ← parent?_bare, h.bare_eq]
  have hkind := congrArg (Option.map Cursor.kind) hparent
  simpa only [Option.map_map, Function.comp_def, kind_bare] using hkind

/-- **Corresponding nodes** are significant alike. -/
theorem isSignificant_eq (h : Corresponds opens tree tree' c c') (file : SourceFile) :
    Stub.isSignificant c' file = Stub.isSignificant c file := by
  cases haside : c.node.isAside with
  | false =>
      have haside' : c'.node.isAside = false := by
        rw [Node.isAside, h.commented.kind_eq, h.commented.role_eq]
        exact haside
      rw [← Stub.isSignificant_map (isFaithful_bare tree) h.isIn haside,
        ← Stub.isSignificant_map (isFaithful_bare tree') h.isIn' haside', h.bare_eq]
  | true =>
      -- A comment is the value of no pair; it can only stand in an array.
      rw [Node.isAside, Bool.and_eq_true, decide_eq_true_eq, decide_eq_true_eq] at haside
      have hrole : c.node.role ≠ some .value := by
        rw [haside.2]
        exact (Option.some_ne_none _).symm
      have hrole' : c'.node.role ≠ some .value := by rwa [h.commented.role_eq]
      have hparents := h.map_kind_parent?
      rw [Stub.isSignificant, Stub.isSignificant, h.isInsideDescriptor_eq]
      cases hparent : c.parent? with
      | none =>
          rw [hparent, Option.map_none, Option.map_eq_none_iff] at hparents
          rw [hparents]
      | some parent =>
          rw [hparent, Option.map_some, Option.map_eq_some_iff] at hparents
          obtain ⟨parent', hparent', hkind⟩ := hparents
          rw [hparent']
          simp only [Stub.isRequiredValue_eq_false h.isIn hparent hrole,
            Stub.isRequiredValue_eq_false h.isIn' hparent' hrole', hkind]

/-- Corresponding literals are kept alike. -/
theorem isKept_eq (h : Corresponds opens tree tree' c c') (file : SourceFile) :
    Stub.isKept c' file = Stub.isKept c file := by
  rw [Stub.isKept, Stub.isKept, h.kind_eq, h.isSignificant_eq]

/-- A text that is read is the same. -/
theorem text_eq (h : Corresponds opens tree tree' c c') (htextual : c.kind.isTextual = true) :
    c'.text = c.text := by
  have htextual' : c'.kind.isTextual = true := by rwa [h.kind_eq]
  rw [Cursor.text, Cursor.text, ← Node.text_bare htextual, ← Node.text_bare htextual',
    Node.bare_eq_of_commented h.commented]

/-- A collection and the one that it corresponds to have elements of the same type. -/
theorem elementType?_eq (htree : tree.Commented opens tree')
    (h : Corresponds opens tree tree' c c') : Loop.elementType? c' = Loop.elementType? c := by
  have hmapM : ∀ {ds ds' : List Cursor}, List.Forall₂ (Corresponds opens tree tree') ds ds' →
      (ds'.mapM fun d => Loop.literalKind? d.kind) = ds.mapM fun d => Loop.literalKind? d.kind := by
    intro ds ds' hds
    induction hds with
    | nil => rfl
    | cons hd _ ih => rw [List.mapM_cons, List.mapM_cons, hd.kind_eq, ih]
  have harray : Loop.arrayElementType? c' = Loop.arrayElementType? c := by
    rw [Loop.arrayElementType?, Loop.arrayElementType?, hmapM (h.significantChildren htree)]
  rw [Loop.elementType?, Loop.elementType?, h.kind_eq, harray]

end Script.Cursor.Corresponds

/-- All decisions about a node, and about the node it corresponds to in the tree with comments
inserted, are the same. -/
structure DecidedAlike (opens : Kind → Bool) (tree tree' : Node) (file file' : SourceFile)
    (c c' : Cursor) : Prop where
  /-- The descriptor that the node opens. -/
  descriptor : Descriptor.ofProperty? c' file' = Descriptor.ofProperty? c file
  /-- The node is a literal that is kept. -/
  kept : Stub.isKept c' file' = Stub.isKept c file
  /-- The node is worth keeping. -/
  significant : Stub.isSignificant c' file' = Stub.isSignificant c file
  /-- The names of the reference. -/
  chain : c'.node.referenceChain? = c.node.referenceChain?
  /-- The arguments of the call. -/
  arguments : List.Forall₂ (Corresponds opens tree tree') c.callArguments c'.callArguments
  /-- The pair with a given key, as it is found below the nodes. -/
  property : ∀ name, ∃ pair? pair?' : Option Cursor,
    pair?.map Cursor.node = c.node.findProperty? name ∧
      pair?'.map Cursor.node = c'.node.findProperty? name ∧
      Option.Rel (Corresponds opens tree tree') pair? pair?'
  /-- The type of the elements of the collection. -/
  elementType : Loop.elementType? c' = Loop.elementType? c

/-- **Decisions about corresponding nodes** are the same. -/
theorem Script.Cursor.Corresponds.decidedAlike (htree : tree.Commented opens tree')
    (hpath : file'.path = file.path) (htype : file'.fileType = file.fileType)
    (h : Corresponds opens tree tree' c c') : DecidedAlike opens tree tree' file file' c c' where
  descriptor := by rw [Descriptor.ofProperty?_congr hpath htype, h.ofProperty?_eq]
  kept := by rw [Stub.isKept, Stub.isSignificant_congr htype, ← Stub.isKept, h.isKept_eq]
  significant := by rw [Stub.isSignificant_congr htype, h.isSignificant_eq]
  chain := h.read Node.referenceChain?_bare
  arguments := h.callArguments htree
  property := fun name => ⟨c.findProperty? name, c'.findProperty? name,
    c.map_node_findProperty? name, c'.map_node_findProperty? name, h.findProperty? htree name⟩
  elementType := h.elementType?_eq htree

/-! ### The index of a file -/

namespace FileIndex

variable (htree : file.tree.Commented opens file'.tree) (hpath : file'.path = file.path)
  (htype : file'.fileType = file.fileType) (x : ExtensionPoint)

include htree hpath htype

/-- **The names and the keys** of the elements of a file. -/
theorem payload_of_commented :
    ((ofFile x file').payload.map fun e => (e.name, e.key)) =
      (ofFile x file).payload.map fun e => (e.name, e.key) := by
  have hshown : ∀ {c c' : Cursor}, Corresponds opens file.tree file'.tree c c' →
      (Element.ofProperty? c' file').map (fun e => (e.name, e.key)) =
        (Element.ofProperty? c file).map fun e => (e.name, e.key) := by
    intro c c' h
    rw [Element.ofProperty?, Element.ofProperty?, (h.decidedAlike htree hpath htype).descriptor,
      Option.map_map, Option.map_map]
    rfl
  have hproperties : ∀ {ps ps' : List Cursor},
      List.Forall₂ (Corresponds opens file.tree file'.tree) ps ps' →
        (ps'.filterMap fun p => (Element.ofProperty? p file').map fun e => (e.name, e.key)) =
          ps.filterMap fun p => (Element.ofProperty? p file).map fun e => (e.name, e.key) := by
    intro ps ps' hps
    induction hps with
    | nil => rfl
    | cons hp _ ih => rw [List.filterMap_cons, List.filterMap_cons, hshown hp, ih]
  rw [ofFile, ofFile, ExtensionPoint.map_collect, ExtensionPoint.map_collect, SourceFile.root,
    SourceFile.root, hproperties (Cursor.allProperties_corresponds htree)]

/-- **The texts of the literals** in the stub of a file. -/
theorem stubs_of_commented :
    (ofFile x file').stubs.map StubLiteral.text = (ofFile x file).stubs.map StubLiteral.text := by
  have hliterals : ∀ {ls ls' : List Cursor}, (∀ l ∈ ls, l.kind.isLiteral = true) →
      List.Forall₂ (Corresponds opens file.tree file'.tree) ls ls' →
        ((ls'.filter (x.keeps file')).map fun l => l.text) =
          (ls.filter (x.keeps file)).map fun l => l.text := by
    intro ls ls' hliteral hls
    induction hls with
    | nil => rfl
    | @cons l l' _ _ hl _ ih =>
        rw [List.forall_mem_cons] at hliteral
        have htext : l'.text = l.text := hl.text_eq (by simp [Kind.isTextual, hliteral.1])
        have hkeeps : x.keeps file' l' = x.keeps file l :=
          x.keeps_congr (hl.decidedAlike htree hpath htype).kept
        rw [List.filter_cons, List.filter_cons, hkeeps]
        split
        · rw [List.map_cons, List.map_cons, htext, ih hliteral.2]
        · exact ih hliteral.2
  have htexts : ∀ f : SourceFile, (ofFile x f).stubs.map StubLiteral.text =
      ((Cursor.root f.tree).literals.filter (x.keeps f)).map fun l => l.text := by
    intro f
    rw [ofFile, List.map_map]
    rfl
  rw [htexts, htexts]
  exact hliterals (fun l hl => (Cursor.isIn_of_mem_literals hl).2)
    (Cursor.literals_corresponds htree)

end FileIndex

/-! ### Loops -/

theorem Loop.Expression.reference?_eq (e : Loop.Expression) :
    e.reference? = e.collection?.bind fun tree =>
      (Cursor.root tree).namedChildren.head?.bind fun statement =>
        if statement.kind ≠ .expressionStatement then none
        else statement.namedChildren.head?.bind fun wrapper =>
          if wrapper.kind ≠ .parenthesizedExpression then none
          else wrapper.significantChildren.head? := by
  rw [reference?]
  cases e.collection? with
  | none => rfl
  | some tree =>
      simp only [Option.bind_some]
      cases (Cursor.root tree).namedChildren.head? with
      | none => rfl
      | some statement =>
          simp only [Option.bind_some]
          cases statement.namedChildren.head? with
          | none => rfl
          | some wrapper => rfl

/-- **The collection of a loop** is found again if comments are inserted inside of its parentheses
only. -/
theorem Loop.Expression.reference?_of_commented (htree : tree.Commented opens tree')
    (hkind : tree.kind = .program) (hprogram : opens .program = false)
    (hstatement : opens .expressionStatement = false) {e e' : Loop.Expression}
    (he : e.collection? = some tree) (he' : e'.collection? = some tree') :
    Option.Rel (Corresponds opens tree tree') e.reference? e'.reference? := by
  have hroot := Cursor.corresponds_root htree
  rw [reference?_eq, reference?_eq, he, he', Option.bind_some, Option.bind_some]
  refine rel_bind (forall₂_head? (hroot.namedChildren ?_)) fun s s' hs => ?_
  · exact (congrArg opens hkind).trans hprogram
  rw [hs.kind_eq]
  split
  · exact .none
  next hs' =>
    refine rel_bind (forall₂_head? (hs.namedChildren ?_)) fun w w' hw => ?_
    · exact (congrArg opens (Classical.not_not.1 hs')).trans hstatement
    rw [hw.kind_eq]
    split
    · exact .none
    · exact forall₂_head? (hw.significantChildren htree)

/-- The type of the elements of a collection is found, and logged, as without the comments. -/
theorem Loop.findElementType_of_corresponds (htree : tree.Commented opens tree')
    (h : Corresponds opens tree tree' c c') (log : TypeLog) (loop loop' : Loop.Expression) :
    (findElementType log c' loop').1 = (findElementType log c loop).1 ∧
      (findElementType log c' loop').2.types.map Prod.fst =
        (findElementType log c loop).2.types.map Prod.fst := by
  rw [findElementType, findElementType, h.elementType?_eq htree]
  cases Loop.elementType? c with
  | none => exact ⟨rfl, rfl⟩
  | some type => simp [TypeLog.add]

end

/-- **Comments do not matter.** Each node of a tree corresponds to one of the tree with comments
inserted, and each of these that is no comment to one of the tree. All decisions about corresponding
nodes are the same, whatever the file. So files of one path and type have the same elements, and their
stubs the same literals; and the collection of a loop, with the type of its elements, does not depend
on comments that are inserted inside of its parentheses. -/
theorem decidedAlike_of_commented {opens : Kind → Bool} {tree tree' : Node}
    (htree : tree.Commented opens tree') :
    (∀ c : Cursor, c.IsIn tree → ∃ c', Corresponds opens tree tree' c c') ∧
      (∀ c' : Cursor, c'.IsIn tree' → c'.node.stays = true →
        ∃ c, Corresponds opens tree tree' c c') ∧
      (∀ file file' : SourceFile, file'.path = file.path → file'.fileType = file.fileType →
        ∀ c c' : Cursor, Corresponds opens tree tree' c c' →
          DecidedAlike opens tree tree' file file' c c') ∧
      (∀ (x : ExtensionPoint) (file file' : SourceFile), file.tree = tree → file'.tree = tree' →
        file'.path = file.path → file'.fileType = file.fileType →
          ((FileIndex.ofFile x file').payload.map fun e => (e.name, e.key)) =
              ((FileIndex.ofFile x file).payload.map fun e => (e.name, e.key)) ∧
            (FileIndex.ofFile x file').stubs.map StubLiteral.text =
              (FileIndex.ofFile x file).stubs.map StubLiteral.text) ∧
      (tree.kind = .program → opens .program = false → opens .expressionStatement = false →
        ∀ e e' : Loop.Expression, e.collection? = some tree → e'.collection? = some tree' →
          Option.Rel
            (fun r r' => Corresponds opens tree tree' r r' ∧ ∀ log : Loop.TypeLog,
              (Loop.findElementType log r' e').1 = (Loop.findElementType log r e).1 ∧
                (Loop.findElementType log r' e').2.types.map Prod.fst =
                  (Loop.findElementType log r e).2.types.map Prod.fst)
            e.reference? e'.reference?) := by
  refine ⟨fun c hc => Cursor.exists_corresponds htree hc,
    fun c' hc' hstays => Cursor.exists_corresponds_of_stays htree hc' hstays, ?_, ?_, ?_⟩
  · intro file file' hpath htype c c' h
    exact h.decidedAlike htree hpath htype
  · intro x file file' hfile hfile' hpath htype
    subst hfile hfile'
    exact ⟨FileIndex.payload_of_commented htree hpath htype x,
      FileIndex.stubs_of_commented htree hpath htype x⟩
  · intro hkind hprogram hstatement e e' he he'
    have hreference :=
      Loop.Expression.reference?_of_commented htree hkind hprogram hstatement he he'
    exact rel_imp (fun r r' h =>
      ⟨h, fun log => Loop.findElementType_of_corresponds htree h log e e'⟩) hreference

/-- The kinds of nodes among whose children comments can stand. -/
def opensToComments (kind : Kind) : Bool := !kind.isLiteral && kind ≠ .templateString

/-- The kinds of nodes inside of the parentheses of a collection that is an array. -/
def opensCollection (kind : Kind) : Bool := kind = .array || kind = .parenthesizedExpression

/-- A comment. -/
def someComment : Node := ⟨.comment, none, 0, "/* a */", []⟩

/-- A script with an instance, and an array in it. -/
def someInstance : SourceFile :=
  .ofScript "a.js" "new Vue(\x7bel: 'x', q: [1, 2]\x7d)".toUTF8.toList

/-- The script with comments everywhere. -/
def sprinkledInstance : SourceFile :=
  { someInstance with tree := Node.sprinkled opensToComments someComment someInstance.tree }

/-- The tree of the collection of a loop. -/
def someCollection : Node := Script.parse "([1, 2]);".toUTF8.toList

/-- A loop over an array. -/
def someLoop : Loop.Expression := ⟨"n in [1, 2]", "[1, 2]", some someCollection, false, []⟩

/-- The loop with comments inside of the parentheses of its collection. -/
def sprinkledLoop : Loop.Expression :=
  { someLoop with collection? := some (Node.sprinkled opensCollection someComment someCollection) }

theorem decidedAlike_of_commented_sprinkled :
    ((FileIndex.ofFile .standard sprinkledInstance).payload.map fun e => (e.name, e.key)) =
        [(Text.ofString "x", Text.ofString "vueo")] ∧
      (FileIndex.ofFile .standard sprinkledInstance).stubs.map StubLiteral.text =
        [Text.ofString "1", Text.ofString "2"] ∧
      (sprinkledLoop.reference?.map fun r =>
        (Loop.findElementType .empty r sprinkledLoop).2.types.map Prod.fst) =
          some [Text.ofString "number"] := by
  have hcomment : someComment.isPlainComment = true := by decide
  have hinstance : someInstance.tree.Commented opensToComments sprinkledInstance.tree :=
    Node.commented_sprinkled hcomment someInstance.tree
  have hcollection : someCollection.Commented opensCollection
      (Node.sprinkled opensCollection someComment someCollection) :=
    Node.commented_sprinkled hcomment someCollection
  obtain ⟨-, -, -, hindex, -⟩ := decidedAlike_of_commented hinstance
  obtain ⟨-, -, -, -, hloop⟩ := decidedAlike_of_commented hcollection
  obtain ⟨hpayload, hstubs⟩ := hindex .standard someInstance sprinkledInstance rfl rfl rfl rfl
  have hreference := hloop (by decide +kernel) (by decide) (by decide) someLoop sprinkledLoop rfl rfl
  refine ⟨?_, ?_, ?_⟩
  · rw [hpayload]
    decide +kernel
  · rw [hstubs]
    decide +kernel
  · have htypes := map_eq_of_rel (fun r r' h => (h.2 .empty).2) hreference
    refine htypes.trans ?_
    decide +kernel

end ComponentIndex
