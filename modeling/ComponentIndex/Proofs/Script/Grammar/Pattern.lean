/-
**Names and patterns stay within their source.**

Main results:

* `ComponentIndex.Script.Node.StartsWithin.toPattern` — a pattern starts where its literal does;
* `ComponentIndex.Script.Grammar.staysWithin_binding` — a name or a pattern stays within the source.
-/

import ComponentIndex.Proofs.Script.Grammar.Rule
import ComponentIndex.Script.Grammar.Pattern

set_option relaxedAutoImplicit false
set_option autoImplicit false

namespace ComponentIndex.Script

open Located

variable {size : Nat}

/-! ### Literals that turn out to be patterns -/

namespace Node

mutual

/-- A pattern starts where its literal does, and so do its parts. -/
theorem StartsWithin.toPattern :
    ∀ {n : Node}, n.StartsWithin size → n.toPattern.StartsWithin size
  | ⟨kind, role, start, text, children⟩, h => by
      have hparts := liesWithin_toPatterns h.children
      have hvalues := liesWithin_toPatternValues h.children
      rw [Node.toPattern.eq_def]
      dsimp only
      split
      · exact ⟨h.start_le, h.isScalar_text, hparts⟩
      · exact ⟨h.start_le, h.isScalar_text, hparts⟩
      · exact ⟨h.start_le, h.isScalar_text, hparts⟩
      · exact ⟨h.start_le, h.isScalar_text, hvalues⟩
      · exact ⟨h.start_le, h.isScalar_text, h.children⟩

theorem liesWithin_toPatterns :
    ∀ {ns : List Node}, LiesWithin size ns → LiesWithin size (toPatterns ns)
  | [], h => h
  | n :: ns, h => by
      obtain ⟨hn, hns⟩ := liesWithin_cons.1 h
      exact liesWithin_cons.2 ⟨hn.toPattern, liesWithin_toPatterns hns⟩

theorem liesWithin_toPatternValues :
    ∀ {ns : List Node}, LiesWithin size ns → LiesWithin size (toPatternValues ns)
  | [], h => h
  | n :: ns, h => by
      obtain ⟨hn, hns⟩ := liesWithin_cons.1 h
      refine liesWithin_cons.2 ⟨?_, liesWithin_toPatternValues hns⟩
      split
      · exact hn.toPattern
      · exact hn

end

end Node

namespace Grammar

open Rule

variable {g : Grammar}

/-! ### Names -/

theorem staysWithin_identifier : identifier.StaysWithin size :=
  .bind staysWithin_ahead fun _ _ => .ite staysWithin_single .failure

theorem staysWithin_stringLiteral : stringLiteral.StaysWithin size := by
  refine .bind staysWithin_ahead fun t ht => ?_
  split
  next parts hkind =>
    exact .bind staysWithin_pass fun _ _ =>
      .pure (liesWithin_nodeBetween ht.start (ht.kind parts hkind) _)
  · exact .failure

theorem staysWithin_propertyName (hg : g.StaysWithin size) :
    (propertyName g).StaysWithin size := by
  refine .bind staysWithin_ahead fun t ht => ?_
  split
  · exact staysWithin_single
  · exact staysWithin_single
  · exact staysWithin_single
  · exact staysWithin_stringLiteral
  · exact ((staysWithin_mark.append (hg _).child).append staysWithin_mark).span _

/-! ### Patterns -/

theorem staysWithin_bindingWithDefault (hg : g.StaysWithin size) :
    (bindingWithDefault g).StaysWithin size :=
  .bind staysWithin_here fun _ hstart => .bind (hg _) fun _ htarget =>
    .bind staysWithin_seesMark fun _ _ => .ite
      (.bind (staysWithin_mark.append (hg _).child) fun _ hrest =>
        staysWithin_finish hstart (liesWithin_cons.2 ⟨htarget, hrest⟩))
      (.pure htarget)

theorem staysWithin_restPattern (hg : g.StaysWithin size) : (restPattern g).StaysWithin size :=
  (staysWithin_mark.append (hg _).child).span _

theorem staysWithin_patternMember (hg : g.StaysWithin size) :
    (patternMember g).StaysWithin size := by
  refine .bind staysWithin_seesMark fun _ _ => .ite (staysWithin_restPattern hg) ?_
  refine .bind staysWithin_here fun _ hstart => ?_
  refine .bind (staysWithin_propertyName hg) fun _ hkey => ?_
  refine .bind staysWithin_seesMark fun _ _ => .ite ?_ (.ite ?_ .failure)
  · exact .bind (staysWithin_mark.append ((staysWithin_bindingWithDefault hg).childAs _))
      fun _ hrest => staysWithin_finish hstart (liesWithin_cons.2 ⟨hkey.withRole _, hrest⟩)
  · exact .bind staysWithin_seesMark fun _ _ => .ite
      (.bind (staysWithin_mark.append (hg _).child) fun _ hrest =>
        staysWithin_finish hstart (liesWithin_cons.2 ⟨hkey.withKind _, hrest⟩))
      (.pure (hkey.withKind _))

theorem staysWithin_patternElement (hg : g.StaysWithin size) :
    (patternElement g).StaysWithin size :=
  .bind staysWithin_seesMark fun _ _ =>
    .ite (staysWithin_restPattern hg) (staysWithin_bindingWithDefault hg)

theorem staysWithin_binding (hg : g.StaysWithin size) : (binding g).StaysWithin size := by
  refine .bind staysWithin_seesMark fun _ _ => .ite ?_ ?_
  · exact (staysWithin_patternMember hg).bracketed _ _ _ _
  refine .bind staysWithin_seesMark fun _ _ => .ite ?_ staysWithin_identifier
  exact (staysWithin_patternElement hg).bracketed _ _ _ _

theorem staysWithin_formalParameters (hg : g.StaysWithin size) :
    (formalParameters g).StaysWithin size :=
  (staysWithin_patternElement hg).bracketed _ _ _ _

end Grammar

end ComponentIndex.Script
