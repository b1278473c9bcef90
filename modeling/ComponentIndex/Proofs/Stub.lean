/-
**The literals that stubs keep.**

A literal is kept by where it stands: it is an element of an array or the value of `required`,
and in a plain script the nearest call, `new` expression or expression statement around it is a
call or `new` expression of a reference that mentions `Vue`.  The literals that are kept come in
the order of their positions, since the tree is laid out in that order.

Main definitions:

* `ComponentIndex.Stub.StandsInArray`, `ComponentIndex.Stub.IsRequired`,
  `ComponentIndex.Stub.StandsInVueCall` — where a literal stands;
* `ComponentIndex.Stub.Keeps` — a literal is kept.

Main results:

* `ComponentIndex.Stub.isKept_iff` — the test for a single literal;
* `ComponentIndex.FileIndex.stubs_standard` — **the stub of a file**.
-/

import ComponentIndex.Index.File
import ComponentIndex.Proofs.Script.Reference
import ComponentIndex.Proofs.SourceFile

set_option relaxedAutoImplicit false
set_option autoImplicit false

namespace ComponentIndex

open Script (Cursor Kind Node)

namespace Stub

/-! ### Literals by where they stand -/

/-- The parent is an array. -/
def StandsInArray (c : Cursor) : Prop := ∃ parent, c.parent? = some parent ∧ parent.kind = .array

/-- The parent is a pair whose key is the name `required`, and whose value this is. -/
def IsRequired (c : Cursor) : Prop :=
  ∃ parent key, c.parent? = some parent ∧ parent.kind = .pair ∧
    parent.childIn? .value = some c ∧ parent.node.childIn? .key = some key ∧
    key.kind = .propertyIdentifier ∧ key.text = "required"

/-- The nearest call, `new` expression or expression statement around a node is a call or a `new`
expression of a plain reference that mentions `Vue`. -/
def StandsInVueCall (c : Cursor) : Prop :=
  ∃ before call after names, c.ancestors = before ++ call :: after ∧
    (∀ a ∈ before, a.kind ≠ .callExpression ∧ a.kind ≠ .newExpression ∧
      a.kind ≠ .expressionStatement) ∧
    (call.kind = .callExpression ∧ call.node.Applies .function names ∨
      call.kind = .newExpression ∧ call.node.Applies .constructor names) ∧
    ("Vue" : Text) ∈ names

/-- A node is a literal that is kept in the stub of its file. -/
def Keeps (file : SourceFile) (c : Cursor) : Prop :=
  c.kind ∈ [.string, .number, .trueLiteral, .falseLiteral, .nullLiteral, .regex] ∧
    (StandsInArray c ∨ IsRequired c) ∧ (file.fileType = .component ∨ StandsInVueCall c)

/-! ### The test for a single literal -/

theorem isCall_iff {kind : Kind} :
    kind.isCall = true ↔ kind = .callExpression ∨ kind = .newExpression := by
  cases kind <;> simp [Kind.isCall]

theorem isLiteral_iff {kind : Kind} :
    kind.isLiteral = true ↔
      kind ∈ [.string, .number, .trueLiteral, .falseLiteral, .nullLiteral, .regex] := by
  cases kind <;> simp [Kind.isLiteral]

/-- The first call or expression statement among some ancestors, if it is a call. -/
theorem callAmong?_eq_filter_find? (ancestors : List Cursor) :
    callAmong? ancestors =
      (ancestors.find? fun c => c.kind.isCall || c.kind = .expressionStatement).filter
        fun c => c.kind.isCall := by
  induction ancestors with
  | nil => rfl
  | cons c cs ih =>
      rw [callAmong?, List.find?_cons]
      cases hcall : c.kind.isCall with
      | true => simp [Option.filter_some, hcall]
      | false =>
          by_cases hstatement : c.kind = .expressionStatement
          · simp [Option.filter_some, hstatement, Kind.isCall]
          · simp [hstatement, ih]

/-- The call that is found among some ancestors is the first of them that is a call or an expression
statement. -/
theorem callAmong?_eq_some_iff {call : Cursor} {ancestors : List Cursor} :
    callAmong? ancestors = some call ↔
      call.kind.isCall = true ∧ ∃ before after, ancestors = before ++ call :: after ∧
        ∀ a ∈ before, a.kind ≠ .callExpression ∧ a.kind ≠ .newExpression ∧
          a.kind ≠ .expressionStatement := by
  have hpasses : ∀ a : Cursor,
      (!(a.kind.isCall || decide (a.kind = .expressionStatement))) = true ↔
        a.kind ≠ .callExpression ∧ a.kind ≠ .newExpression ∧ a.kind ≠ .expressionStatement := by
    intro a
    rw [Bool.not_eq_true', Bool.or_eq_false_iff, Bool.eq_false_iff, ne_eq, isCall_iff, not_or,
      decide_eq_false_iff_not, and_assoc]
  rw [callAmong?_eq_filter_find?, Option.filter_eq_some_iff, List.find?_eq_some_iff_append]
  simp only [hpasses]
  constructor
  · rintro ⟨⟨-, hsplit⟩, hcall⟩
    exact ⟨hcall, hsplit⟩
  · rintro ⟨hcall, hsplit⟩
    exact ⟨⟨by rw [hcall, Bool.true_or], hsplit⟩, hcall⟩

theorem isInsideDescriptor_iff {c : Cursor} :
    isInsideDescriptor c = true ↔ StandsInVueCall c := by
  have hvue : (Text.ofString "Vue" : Text) = ("Vue" : Text) := rfl
  rw [isInsideDescriptor, StandsInVueCall, nearestCall?]
  constructor
  · intro h
    cases hcall : callAmong? c.ancestors with
    | none => simp [hcall] at h
    | some call =>
        simp only [hcall, Option.any_eq_true, List.contains_iff_mem] at h
        obtain ⟨names, hnames, hmem⟩ := h
        obtain ⟨-, before, after, hsplit, hbefore⟩ := callAmong?_eq_some_iff.1 hcall
        exact ⟨before, call, after, names, hsplit, hbefore,
          Node.calleeChain?_eq_some_iff.1 hnames, hmem⟩
  · rintro ⟨before, call, after, names, hsplit, hbefore, hcallee, hmem⟩
    have hkind : call.kind.isCall = true := by
      rw [isCall_iff]
      exact hcallee.imp And.left And.left
    rw [callAmong?_eq_some_iff.2 ⟨hkind, before, after, hsplit, hbefore⟩]
    simp only [Option.any_eq_true, List.contains_iff_mem]
    exact ⟨names, Node.calleeChain?_eq_some_iff.2 hcallee, hmem⟩

theorem isRequiredValue_iff {tree : Node} {c parent : Cursor} (hc : c.IsIn tree)
    (hparent : c.parent? = some parent) : isRequiredValue c parent = true ↔ IsRequired c := by
  have hvalue : (parent.childIn? .value).any c.isSame = true ↔
      parent.childIn? .value = some c :=
    Cursor.any_isSame_iff hc fun found hfound =>
      (hc.parent hparent).1.of_mem_children (List.mem_of_find?_eq_some hfound)
  simp only [isRequiredValue, Bool.and_eq_true, decide_eq_true_eq, hvalue, Option.any_eq_true]
  constructor
  · rintro ⟨⟨hkind, hvalue⟩, key, hkey, hname, htext⟩
    exact ⟨parent, key, hparent, hkind, hvalue, hkey, hname, htext⟩
  · rintro ⟨parent', key, hparent', hkind, hvalue, hkey, hname, htext⟩
    obtain rfl := Option.some.inj (hparent.symm.trans hparent')
    exact ⟨⟨hkind, hvalue⟩, key, hkey, hname, htext⟩

/-- The test for a single literal finds the literals that are kept. -/
theorem isKept_iff {tree : Node} {file : SourceFile} {c : Cursor} (hc : c.IsIn tree) :
    isKept c file = true ↔ Keeps file c := by
  have hstands : ∀ parent, c.parent? = some parent →
      ((parent.kind = .array ∨ isRequiredValue c parent = true) ↔
        StandsInArray c ∨ IsRequired c) := by
    intro parent hparent
    rw [isRequiredValue_iff hc hparent]
    refine or_congr_left ⟨fun h => ⟨parent, hparent, h⟩, ?_⟩
    rintro ⟨parent', hparent', hkind⟩
    obtain rfl := Option.some.inj (hparent.symm.trans hparent')
    exact hkind
  rw [isKept, Bool.and_eq_true, isLiteral_iff, Keeps]
  refine and_congr_right fun _ => ?_
  rw [isSignificant]
  cases hparent : c.parent? with
  | none => simp [StandsInArray, IsRequired, hparent]
  | some parent =>
      simp only [Bool.and_eq_true, Bool.or_eq_true, decide_eq_true_eq, hstands parent hparent,
        isInsideDescriptor_iff, SourceFile.isComponent]

end Stub

/-! ### The stub of a file -/

/-- The place of a literal in its file. -/
def StubLiteral.position (s : StubLiteral) : Position := ⟨s.startLine, s.startCol⟩

namespace FileIndex

theorem stubs_eq (file : SourceFile) :
    (ofFile .standard file).stubs =
      (file.root.literals.filter fun c => Stub.isKept c file).map (StubLiteral.ofLiteral file) := by
  have hkeeps : ExtensionPoint.standard.keeps file = fun c => Stub.isKept c file := by
    funext c
    simp [ExtensionPoint.keeps, ExtensionPoint.standard]
  rw [ofFile, hkeeps]

/-- **The stub of a file** keeps exactly the literals that stand where a descriptor can be, each
once and in the order of their positions. -/
theorem stubs_standard {file : SourceFile}
    (hlayout : file.tree.IsLaidOut Kind.isLiteral file.source.length)
    (hapart : ∀ c : Cursor, c.IsIn file.tree → c.kind.isLiteral = true →
      ∀ a ∈ c.ancestors, a.kind.isLiteral = false) :
    ∃ kept : List Cursor, kept.Nodup ∧ (∀ c, c ∈ kept ↔ c.IsIn file.tree ∧ Stub.Keeps file c) ∧
      (ofFile .standard file).stubs = kept.map (StubLiteral.ofLiteral file) ∧
      (ofFile .standard file).stubs.Pairwise fun a b => a.position.Before b.position := by
  have hkept : file.root.literals.filter (fun c => Stub.isKept c file) =
      file.root.preorder.filter fun c => Stub.isKept c file := by
    rw [SourceFile.root, Cursor.literals_root, List.filter_filter]
    refine List.filter_congr fun c hc => ?_
    cases hc' : Stub.isKept c file with
    | false => simp
    | true =>
        have hliteral : c.kind.isLiteral = true := by
          rw [Stub.isKept, Bool.and_eq_true] at hc'
          exact hc'.1
        simpa [hliteral] using hapart c (Cursor.mem_preorder_iff.1 hc) hliteral
  refine ⟨file.root.preorder.filter fun c => Stub.isKept c file,
    (Cursor.nodup_preorder _).filter _, fun c => ?_, ?_, ?_⟩
  · rw [List.mem_filter, SourceFile.root, Cursor.mem_preorder_iff]
    exact and_congr_right fun hc => Stub.isKept_iff hc
  · rw [stubs_eq, hkept]
  · rw [stubs_eq, hkept, List.pairwise_map, List.pairwise_filter]
    refine (Cursor.pairwise_preorder hlayout).imp_of_mem ?_
    intro c d hc hd hcd hkeptc hkeptd
    rw [Cursor.mem_preorder_iff] at hc hd
    obtain ⟨hliteral, -, -⟩ := (Stub.isKept_iff hc).1 hkeptc
    rw [← Stub.isLiteral_iff] at hliteral
    obtain ⟨hliteral', hstands, -⟩ := (Stub.isKept_iff hd).1 hkeptd
    rw [← Stub.isLiteral_iff] at hliteral'
    obtain hcontains | hends := hcd
    · -- Literals do not nest, so that one that comes first ends before the other one starts.
      exact absurd hliteral (by simp [hapart d hd hliteral' c hcontains])
    · obtain ⟨parent, hparent⟩ : ∃ parent, d.parent? = some parent := by
        obtain ⟨parent, hparent, -⟩ | ⟨parent, _, hparent, -⟩ := hstands
        all_goals exact ⟨parent, hparent⟩
      obtain ⟨hparentIn, hmem⟩ := hd.parent hparent
      obtain ⟨stop, hstop, hends'⟩ := Cursor.endsAt_of_mem_children hlayout hparentIn hmem
      have := (Node.endsAt_iff.1 hends').1
      exact SourceFile.position_before (hends.start_lt hliteral) (by omega)

/-- A script in which an element of an array and a value of `required` are kept. -/
def twoKept : SourceFile :=
  .ofScript "a.js"
    "new Vue(\x7ba: [1], p: \x7brequired: true\x7d, q: 2\x7d)".toUTF8.toList

theorem stubs_standard_twoKept :
    twoKept.tree.IsLaidOut Kind.isLiteral twoKept.source.length ∧
      (ofFile .standard twoKept).stubs.map (·.startCol) = [14, 32] ∧
      ∃ kept : List Cursor, kept.Nodup ∧
        (∀ c, c ∈ kept ↔ c.IsIn twoKept.tree ∧ Stub.Keeps twoKept c) ∧
        (ofFile .standard twoKept).stubs = kept.map (StubLiteral.ofLiteral twoKept) ∧
        (ofFile .standard twoKept).stubs.Pairwise fun a b => a.position.Before b.position := by
  have hlayout : twoKept.tree.IsLaidOut Kind.isLiteral twoKept.source.length := by decide +kernel
  have hapart : ∀ c ∈ (Cursor.root twoKept.tree).preorder, c.kind.isLiteral = true →
      ∀ a ∈ c.ancestors, a.kind.isLiteral = false := by decide +kernel
  exact ⟨hlayout, by decide +kernel,
    stubs_standard hlayout fun c hc => hapart c (Cursor.mem_preorder_iff.2 hc)⟩

end FileIndex

end ComponentIndex
