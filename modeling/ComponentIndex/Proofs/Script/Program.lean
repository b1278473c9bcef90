/-
**Trees of scripts lie within their source.**

By induction on the depth to which goals nest, every rule of the grammar stays within the source;
so does the whole grammar, and every node of the tree of a source starts within that source and spans a
text of it.

Main results:

* `ComponentIndex.Script.Grammar.staysWithin_run` — every goal, at every depth;
* `ComponentIndex.Script.startsWithin_parse` — **every node starts within the source**;
* `ComponentIndex.Script.Cursor.IsIn.startsWithin` — the same for the nodes that cursors reach.
-/

import ComponentIndex.Proofs.Script.Grammar.Statement
import ComponentIndex.Proofs.Script.Preorder
import ComponentIndex.Script.Program

set_option relaxedAutoImplicit false
set_option autoImplicit false

namespace ComponentIndex.Script

open Located

variable {size : Nat}

namespace Grammar

open Rule

/-! ### The whole grammar -/

theorem staysWithin_ruleOf {g : Grammar} (hg : g.StaysWithin size) (goal : Goal) :
    (ruleOf g goal).StaysWithin size := by
  cases goal with
  | statement => exact staysWithin_statement hg
  | expression allowIn => exact staysWithin_expression hg allowIn
  | operand allowIn => exact staysWithin_operand hg allowIn
  | unary => exact staysWithin_unary hg
  | construction => exact staysWithin_construction hg
  | binding => exact staysWithin_binding hg
  | markup => exact staysWithin_markupElement hg

theorem staysWithin_run (fuel depth : Nat) : StaysWithin size ⟨run fuel depth, fuel⟩ := by
  induction depth with
  | zero => exact fun _ => .failure
  | succ depth ih => exact fun goal => staysWithin_ruleOf ih goal

theorem staysWithin_hashBangLine : hashBangLine.StaysWithin size :=
  .bind staysWithin_here fun _ hm => .ite
    (.bind (staysWithin_resume (hm.skipGlyphs _)) fun _ _ =>
      .pure (liesWithin_singleton.2 (liesWithin_childless hm _)))
    (.pure liesWithin_nil)

theorem staysWithin_program {g : Grammar} (hg : g.StaysWithin size) :
    (program g).StaysWithin size :=
  ((staysWithin_hashBangLine.append ((hg _).child.repeatUntil _ _)).append
    staysWithin_comments).span _

end Grammar

/-! ### Trees -/

theorem liesWithin_parse? (bytes : List UInt8) : LiesWithin bytes.length (parse? bytes) := by
  have hstart := Mark.isWithin_atStart bytes
  refine liesWithin_map (Grammar.staysWithin_program (Grammar.staysWithin_run _ _) _ ?_)
    fun _ h => h.1
  exact ⟨Token.isWithin_read _ _ hstart, hstart⟩

/-- Every node of the tree of a source starts within the source, or at its end, and no surrogate occurs
in its text. -/
theorem startsWithin_parse (bytes : List UInt8) : (parse bytes).StartsWithin bytes.length := by
  have h := liesWithin_parse? bytes
  rw [parse]
  cases heq : parse? bytes with
  | none => exact ⟨Nat.zero_le _, rfl, liesWithin_nil⟩
  | some n => exact h n heq

/-- The node of every cursor of a tree starts within the source if the tree does. -/
theorem Cursor.IsIn.startsWithin {tree : Node} {c : Cursor} (hc : c.IsIn tree)
    (h : tree.StartsWithin size) : c.node.StartsWithin size := by
  obtain ⟨n, crumbs⟩ := c
  induction crumbs generalizing n with
  | nil =>
      obtain rfl : n = tree := hc
      exact h
  | cons crumb crumbs ih =>
      obtain ⟨hchild, hparent⟩ := hc
      exact (ih crumb.parent hparent).children n (List.mem_of_getElem? hchild)

end ComponentIndex.Script
