import NestedSelect.Proofs.Query.Paging

/-!
Compiling in every session.

A query that was opened and called in any way satisfies its invariant, and therefore compiling it
fails only while wildcards are being found out, or on a limit or an offset of more digits than can
be written at all.
-/

namespace NestedSelect

open Sql (BoundStatement)
open Query

variable {σ : Type}

/-- Compiling a query without a base query for a built-in dialect: it fails where finding out
wildcards fails, and builds a statement otherwise, with no wildcard left. -/
theorem Query.Composed.compile_total {link : Link σ} {query later : Query} {world after : σ}
    {awaits : Bool} {outcome : Outcome BoundStatement} (composed : query.Composed)
    (builtin : query.setup.generator.dialect ∈ Dialect.builtin.map Prod.snd)
    (rooted : query.setup.baseQuery? = none)
    (done : compile awaits link.introspector? query world = ((outcome, later), after)) :
    (∃ fault, resolveWildcards awaits link.introspector? query world =
        ((.error fault, later), after) ∧ outcome = .error fault) ∨
      (resolveWildcards awaits link.introspector? query world = ((.ok (), later), after) ∧
        (∀ request ∈ later.relations, request.isWildcard = false) ∧
        ((¬ later.Unwritable ∧
            ∃ statement, later.build later.window = .ok statement ∧ outcome = .ok statement) ∨
          (later.Unwritable ∧ outcome = misused .wrongValue))) := by
  rcases compile_cases done with failed | ⟨resolved, built⟩
  · exact .inl failed
  have discovery := resolveWildcards_discovery resolved
  have sound := composed.discovery discovery
  refine .inr ⟨resolved, sound.resolved discovery.marked, ?_⟩
  have same : later.setup = query.setup := by rw [discovery.frame]
  rw [← same] at builtin rooted
  rcases sound.build_cases builtin rooted with
    ⟨few, statement, written⟩ | ⟨many, failed⟩
  · exact .inl ⟨few, statement, written, built.trans written⟩
  · exact .inr ⟨many, built.trans failed⟩

theorem Session.query_offset (hydrators : HydratorSource) (link : Link σ) (session : Session σ)
    {n : Int} (natural : 0 ≤ n) :
    (session.call hydrators link (.offset (.int n))).query =
      { session.query with offset? := some n } := by
  have whole : ensureNonNegative "Offset" (.int n) = .ok n := if_neg (by omega)
  have changed : offset (.int n) session.query =
      (.ok (), { session.query with offset? := some n }) := by
    unfold offset
    exact Edit.bind_of_ok (Edit.lift_apply whole session.query)
  exact congrArg (fun made => made.1.2) (answered_of_edit changed session.world)

end NestedSelect
