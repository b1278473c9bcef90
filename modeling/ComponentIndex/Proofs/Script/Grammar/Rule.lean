/-
**Rules stay within their source.**

A rule stays within a source if from places within it the rule only reaches places within it, and
only yields what lies within it.  The rules that do are closed under the combinators of the grammar.

Main definitions:

* `ComponentIndex.Script.Rule.StaysWithin` — a rule stays within a source;
* `ComponentIndex.Script.Grammar.StaysWithin` — so do the rules of all goals.

Main results:

* `ComponentIndex.Script.Rule.StaysWithin.bind`, `ComponentIndex.Script.Rule.StaysWithin.orElse` —
  sequence and choice;
* `ComponentIndex.Script.Rule.StaysWithin.span`,
  `ComponentIndex.Script.Rule.StaysWithin.listUntil` — nodes and lists.
-/

import ComponentIndex.Proofs.Script.Grammar.Token
import ComponentIndex.Script.Grammar.Rule

set_option relaxedAutoImplicit false
set_option autoImplicit false

namespace ComponentIndex.Script

open Located

variable {size : Nat} {α β : Type} [Located α] [Located β]

/-- The token ahead and the end of what has been read lie within a source of the given size. -/
structure Place.IsWithin (size : Nat) (p : Place) : Prop where
  /-- The token ahead. -/
  ahead : p.ahead.IsWithin size
  /-- The end of what has been read. -/
  behind : p.behind.IsWithin size

instance : Located Place := ⟨Place.IsWithin⟩

instance : Located Kind := ⟨fun _ _ => True⟩

namespace Rule

/-- From places within a source of the given size the rule only reaches such places, and what it
yields lies within the source. -/
def StaysWithin (size : Nat) (rule : Rule α) : Prop :=
  ∀ p : Place, p.IsWithin size → LiesWithin size (rule.run p)

namespace StaysWithin

/-! ### Sequence and choice -/

protected theorem pure {a : α} (ha : LiesWithin size a) : (pure a : Rule α).StaysWithin size :=
  fun _ hp => liesWithin_some.2 ⟨ha, hp⟩

protected theorem bind {x : Rule α} {f : α → Rule β} (hx : x.StaysWithin size)
    (hf : ∀ a, LiesWithin size a → (f a).StaysWithin size) : (x >>= f).StaysWithin size := by
  intro p hp
  rw [StateT.run_bind]
  intro r hr
  obtain ⟨⟨a, q⟩, hxp, hfq⟩ := Option.bind_eq_some_iff.1 hr
  obtain ⟨ha, hq⟩ := hx p hp (a, q) hxp
  exact hf a ha q hq r hfq

/-- A result that may be missing is told apart before it is used. -/
theorem bind_option {x : Rule (Option α)} {f : Option α → Rule β} (hx : x.StaysWithin size)
    (hsome : ∀ a, LiesWithin size a → (f (some a)).StaysWithin size)
    (hnone : (f none).StaysWithin size) : (x >>= f).StaysWithin size := by
  refine .bind hx fun o ho => ?_
  cases o with
  | none => exact hnone
  | some a => exact hsome a (liesWithin_some.1 ho)

protected theorem failure : (failure : Rule α).StaysWithin size := fun _ _ => liesWithin_none

omit [Located α] in
/-- A guard that does not hold leaves nothing to show of what follows it. -/
theorem failure_bind {f : α → Rule β} : ((failure : Rule α) >>= f).StaysWithin size :=
  fun _ _ => liesWithin_none

protected theorem ite {c : Prop} [Decidable c] {x y : Rule α} (hx : x.StaysWithin size)
    (hy : y.StaysWithin size) : (if c then x else y).StaysWithin size := by
  split
  · exact hx
  · exact hy

protected theorem orElse {x y : Rule α} (hx : x.StaysWithin size) (hy : y.StaysWithin size) :
    (x <|> y).StaysWithin size := by
  intro p hp
  change LiesWithin size ((x.run p).orElse fun _ => y.run p)
  cases hrun : x.run p with
  | none => exact hy p hp
  | some r => exact liesWithin_some.2 (hx p hp r hrun)

protected theorem get : (get : Rule Place).StaysWithin size :=
  fun _ hp => liesWithin_some.2 ⟨hp, hp⟩

protected theorem set {p : Place} (hp : p.IsWithin size) :
    (set p : Rule Unit).StaysWithin size :=
  fun _ _ => liesWithin_some.2 ⟨trivial, hp⟩

protected theorem modify {f : Place → Place}
    (hf : ∀ p : Place, p.IsWithin size → (f p).IsWithin size) :
    (modify f : Rule Unit).StaysWithin size :=
  fun p hp => liesWithin_some.2 ⟨trivial, hf p hp⟩

end StaysWithin

/-! ### Single tokens -/

theorem staysWithin_ahead : ahead.StaysWithin size :=
  .bind .get fun _ hp => .pure hp.ahead

theorem staysWithin_here : here.StaysWithin size :=
  .bind .get fun _ hp => .pure hp.ahead.start

theorem staysWithin_behind : behind.StaysWithin size :=
  .bind .get fun _ hp => .pure hp.behind

theorem staysWithin_resume {operand : Bool} {m : Mark} (h : m.IsWithin size) :
    (resume operand m).StaysWithin size :=
  .modify fun p _ => ⟨Token.isWithin_read p.fuel operand h, h⟩

theorem staysWithin_pass : pass.StaysWithin size :=
  .bind staysWithin_ahead fun _ ht => .bind (staysWithin_resume ht.stop) fun _ _ => .pure ht

theorem staysWithin_comments : comments.StaysWithin size :=
  .bind staysWithin_ahead fun _ ht =>
    .bind (.modify fun _ hp => ⟨⟨hp.ahead.kind, hp.ahead.start, hp.ahead.stop, liesWithin_nil⟩,
      hp.behind⟩) fun _ _ => .pure ht.comments

theorem staysWithin_seesWord {text : Text} : (seesWord text).StaysWithin size :=
  .bind staysWithin_ahead fun _ _ => .pure trivial

theorem staysWithin_seesMark {text : Text} : (seesMark text).StaysWithin size :=
  .bind staysWithin_ahead fun _ _ => .pure trivial

theorem staysWithin_leaf {kind : Kind} : (leaf kind).StaysWithin size :=
  .bind staysWithin_comments fun _ hbefore => .bind staysWithin_pass fun _ ht =>
    .pure (liesWithin_append.2 ⟨hbefore,
      liesWithin_singleton.2 (liesWithin_childless ht.start _)⟩)

theorem staysWithin_anyToken : anyToken.StaysWithin size :=
  .bind staysWithin_ahead fun _ _ => staysWithin_leaf

theorem staysWithin_word {text : Text} : (word text).StaysWithin size :=
  .bind staysWithin_seesWord fun _ _ => .ite staysWithin_anyToken .failure

theorem staysWithin_mark {text : Text} : (mark text).StaysWithin size :=
  .bind staysWithin_seesMark fun _ _ => .ite staysWithin_anyToken .failure

theorem staysWithin_mark? {text : Text} : (mark? text).StaysWithin size :=
  .bind staysWithin_seesMark fun _ _ => .ite staysWithin_anyToken (.pure liesWithin_nil)

theorem staysWithin_word? {text : Text} : (word? text).StaysWithin size :=
  .bind staysWithin_seesWord fun _ _ => .ite staysWithin_anyToken (.pure liesWithin_nil)

/-! ### Nodes -/

namespace StaysWithin

variable {rule : Rule Node}

theorem child (h : rule.StaysWithin size) : (child rule).StaysWithin size :=
  .bind staysWithin_comments fun _ hbefore => .bind h fun _ hn =>
    .pure (liesWithin_append.2 ⟨hbefore, liesWithin_singleton.2 hn⟩)

theorem childAs (h : rule.StaysWithin size) (role : Role) :
    (childAs role rule).StaysWithin size :=
  .bind staysWithin_comments fun _ hbefore => .bind h fun _ hn =>
    .pure (liesWithin_append.2 ⟨hbefore, liesWithin_singleton.2 (hn.withRole role)⟩)

end StaysWithin

theorem staysWithin_finish {kind : Kind} {start : Mark} {ns : List Node}
    (hstart : start.IsWithin size) (hns : LiesWithin size ns) :
    (finish kind start ns).StaysWithin size :=
  .bind staysWithin_behind fun _ _ => .pure (liesWithin_nodeBetween hstart hns kind)

theorem staysWithin_single {kind : Kind} : (single kind).StaysWithin size :=
  .bind staysWithin_pass fun _ ht => .pure (liesWithin_childless ht.start kind)

namespace StaysWithin

variable {parts first second : Rule (List Node)}

theorem span (h : parts.StaysWithin size) (kind : Kind) : (span kind parts).StaysWithin size :=
  .bind staysWithin_here fun _ hstart => .bind h fun _ hns => staysWithin_finish hstart hns

theorem append (hfirst : first.StaysWithin size) (hsecond : second.StaysWithin size) :
    (first ++ second).StaysWithin size :=
  .bind hfirst fun _ hns => .bind hsecond fun _ hms => .pure (liesWithin_append.2 ⟨hns, hms⟩)

/-! ### Lists -/

theorem repeatUntil (h : parts.StaysWithin size) (stops : Token → Bool) (fuel : Nat) :
    (repeatUntil stops parts fuel).StaysWithin size := by
  induction fuel with
  | zero => exact .failure
  | succ fuel ih =>
      exact .bind staysWithin_ahead fun _ _ => .ite (.pure liesWithin_nil) <|
        .bind h fun _ hns => .bind ih fun _ hms => .pure (liesWithin_append.2 ⟨hns, hms⟩)

theorem listUntil (h : parts.StaysWithin size) (close : Text) (fuel : Nat) :
    (listUntil close parts fuel).StaysWithin size :=
  .repeatUntil
    (.bind staysWithin_seesMark fun _ _ => .ite staysWithin_anyToken <|
      .bind h fun _ hns => .bind staysWithin_seesMark fun _ _ => .ite (.pure hns) <|
        .bind staysWithin_mark fun _ hcomma => .pure (liesWithin_append.2 ⟨hns, hcomma⟩)) _ _

/-- Items between brackets. -/
theorem bracketed {rule : Rule Node} (h : rule.StaysWithin size) (kind : Kind)
    (opening close : Text) (fuel : Nat) :
    (Rule.span kind
      (mark opening ++ Rule.listUntil close (Rule.child rule) fuel ++ mark close)).StaysWithin
        size :=
  ((staysWithin_mark.append (h.child.listUntil _ _)).append staysWithin_mark).span _

end StaysWithin

/-! ### The end of a statement -/

theorem staysWithin_semicolon : semicolon.StaysWithin size :=
  .bind staysWithin_ahead fun _ _ => .ite staysWithin_anyToken <| .ite
    (.ite
      (.bind staysWithin_behind fun _ hm => .bind (staysWithin_resume hm) fun _ _ =>
        .pure liesWithin_nil)
      (.pure liesWithin_nil))
    .failure

end Rule

/-- The rules of all goals stay within a source of the given size. -/
def Grammar.StaysWithin (size : Nat) (g : Grammar) : Prop :=
  ∀ goal, (g.goal goal).StaysWithin size

end ComponentIndex.Script
