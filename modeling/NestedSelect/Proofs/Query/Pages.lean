import Mathlib.Data.Rat.Floor
import NestedSelect.Proofs.Number.Rounding
import NestedSelect.Proofs.Query.Paging

/-!
The arithmetic of pages.

Up to `2 ^ 53` rows the last page is the exact one, although the quotient it comes from is rounded.
All that is used of it is where it lies among the whole numbers, which rounding keeps. The windows
of the pages up to the last one meet every row once.
-/

namespace NestedSelect

namespace Page

/-- The number of the last page, exactly: the rows by the rows per page, rounded up. -/
def exactLast (total perPage : Int) : Int := max 1 ⌈(total : ℚ) / perPage⌉

/-- The window of a size after the rows that are skipped holds the row. -/
def Shows (size skipped row : Int) : Prop := skipped ≤ row ∧ row < skipped + size

variable {total perPage number : Int}

theorem exactLast_le_iff (positive : 1 ≤ perPage) (first : 1 ≤ number) :
    exactLast total perPage ≤ number ↔ total ≤ number * perPage := by
  have divisor : (0 : ℚ) < perPage := by exact_mod_cast positive
  rw [exactLast, max_le_iff, Int.ceil_le, div_le_iff₀ divisor]
  exact_mod_cast and_iff_right first

theorem lt_exactLast_iff (positive : 1 ≤ perPage) (first : 1 ≤ number) :
    number < exactLast total perPage ↔ number * perPage < total := by
  rw [← not_le, exactLast_le_iff positive first, not_le]

theorem one_le_exactLast : 1 ≤ exactLast total perPage := le_max_left _ _

theorem exactLast_of_le (few : total ≤ perPage) (positive : 1 ≤ perPage) :
    exactLast total perPage = 1 :=
  le_antisymm ((exactLast_le_iff positive le_rfl).2 (by omega)) one_le_exactLast

/-! ### The rounded quotient -/

section

variable (some_ : 0 ≤ total) (bounded : total ≤ Number.twoTo 53) (positive : 1 ≤ perPage)

include some_ bounded positive

theorem roundedCeiling_eq : roundedCeiling total perPage =
    .ok ((Number.nearest total.toNat perPage.toNat).ceil : Int) := by
  have rows : total.natAbs = total.toNat := by omega
  have size : perPage.natAbs = perPage.toNat := by omega
  have sign : (decide (total < 0) != decide (perPage < 0)) = false := by
    rw [decide_eq_false (by omega), decide_eq_false (by omega)]
    rfl
  unfold roundedCeiling ceiling
  rw [rows, size, sign, Number.not_overflows_nearest (by omega) (by omega)]
  rfl

theorem rounded_le_iff (first : 1 ≤ number) :
    ((Number.nearest total.toNat perPage.toNat).ceil : Int) ≤ number ↔
      total ≤ number * perPage := by
  obtain ⟨rows, rfl⟩ := Int.eq_ofNat_of_zero_le some_
  obtain ⟨size, rfl⟩ := Int.eq_ofNat_of_zero_le (by omega : 0 ≤ perPage)
  obtain ⟨page, rfl⟩ := Int.eq_ofNat_of_zero_le (by omega : 0 ≤ number)
  norm_cast at bounded positive first ⊢
  constructor
  · intro le
    refine Nat.le_of_not_lt (fun more => ?_)
    exact absurd (Number.lt_nearest_ceil positive bounded first more) (Nat.not_lt.2 le)
  · exact Number.nearest_ceil_le positive bounded

theorem lastPage_eq (items : List Value) (number : Int) :
    (⟨items, total, number, perPage⟩ : Page).lastPage = .ok (exactLast total perPage) := by
  have same : max 1 ((Number.nearest total.toNat perPage.toNat).ceil : Int) =
      exactLast total perPage := by
    apply le_antisymm
    · rw [max_le_iff]
      refine ⟨one_le_exactLast, ?_⟩
      rw [rounded_le_iff some_ bounded positive one_le_exactLast]
      exact (exactLast_le_iff positive one_le_exactLast).1 le_rfl
    · rw [exactLast_le_iff positive (le_max_left _ _),
        ← rounded_le_iff some_ bounded positive (le_max_left _ _)]
      exact le_max_right _ _
  unfold lastPage
  dsimp only
  rw [if_neg (by omega), Outcome.bind_of_ok (roundedCeiling_eq some_ bounded positive), same]

theorem hasMore_eq (items : List Value) (first : 1 ≤ number) :
    (⟨items, total, number, perPage⟩ : Page).hasMore =
      .ok (decide (number * perPage < total)) := by
  unfold hasMore
  rw [Outcome.bind_of_ok (lastPage_eq some_ bounded positive items number)]
  simp only [lt_exactLast_iff positive first]

end

/-! ### The windows -/

theorem shows_iff {row : Int} (positive : 1 ≤ perPage) :
    Shows perPage ((number - 1) * perPage) row ↔ number = row / perPage + 1 := by
  have after : number * perPage = (number - 1) * perPage + perPage := by ring
  rw [Shows, ← after, ← Int.le_ediv_iff_mul_le (by omega), ← Int.ediv_lt_iff_lt_mul (by omega)]
  omega

/-- Every row is in the window of one page up to the last. -/
theorem exists_unique_shows {row : Int} (positive : 1 ≤ perPage) (low : 0 ≤ row)
    (high : row < total) :
    ∃! number, (1 ≤ number ∧ number ≤ exactLast total perPage) ∧
      Shows perPage ((number - 1) * perPage) row := by
  simp only [shows_iff positive]
  have whole : 0 ≤ row / perPage := Int.ediv_nonneg low (by omega)
  refine ⟨row / perPage + 1, ⟨⟨by omega, ?_⟩, rfl⟩, fun _ found => found.2⟩
  refine Int.not_lt.1 (fun beyond => ?_)
  have one : 1 ≤ exactLast total perPage := one_le_exactLast
  -- All rows would be on the pages before that of the row.
  have rows : total ≤ row / perPage * perPage :=
    (exactLast_le_iff positive (by omega)).1 (by omega)
  have start : row / perPage * perPage ≤ row := Int.ediv_mul_le row (by omega)
  omega

theorem skipped_le (some_ : 0 ≤ total) (positive : 1 ≤ perPage) (first : 1 ≤ number)
    (last : number ≤ exactLast total perPage) :
    0 ≤ (number - 1) * perPage ∧ (number - 1) * perPage ≤ total := by
  refine ⟨Int.mul_nonneg (by omega) (by omega), ?_⟩
  rcases Int.lt_or_eq_of_le first with more | rfl
  · exact Int.le_of_lt ((lt_exactLast_iff positive (by omega)).1 (by omega))
  · simpa using some_

theorem skipped_writable (some_ : 0 ≤ total) (bounded : total ≤ Number.twoTo 53)
    (positive : 1 ≤ perPage) (first : 1 ≤ number) (last : number ≤ exactLast total perPage) :
    Text.isWritable ((number - 1) * perPage) = true := by
  obtain ⟨low, high⟩ := skipped_le some_ positive first last
  have short : Number.twoTo 53 < Number.tenTo Text.integerDigitLimit := by decide +kernel
  have most : ((number - 1) * perPage).natAbs ≤ Number.twoTo 53 := by omega
  exact decide_eq_true (Nat.lt_of_le_of_lt most short)

end Page

namespace Query

open Sql (BoundStatement)

variable {σ : Type} {query : Query} {link : Link σ} {hydrators : HydratorSource}
  {handle : HydratorHandle} {executor : Executor σ} {awaits : Bool} {number size total : Int}

theorem Pages.renumbered {page perPage : Value} {first : Int}
    (pages : query.Pages page perPage first size) (positive : 1 ≤ number) :
    query.Pages (.int number) perPage number size := by
  refine ⟨pages.paged, ?_, pages.sized, pages.admitted⟩
  unfold ensurePositive
  exact if_neg (by omega)

theorem Pages.first {page : Value} {perPage number size : Int}
    (pages : query.Pages page (.int perPage) number size) :
    query.Pages (.int 1) (.int perPage) 1 perPage := by
  obtain ⟨same, _⟩ := ensurePositive_eq_ok pages.sized
  cases same
  exact pages.renumbered (by omega)

theorem pageWindow_of_refused {fault : Fault} (paged : ensurePaged query.setup = .ok ())
    (first : 1 ≤ number) (positive : 1 ≤ size)
    (refused : ensureLimit "Per-page" (.int size) query = (.error fault, query)) :
    pageWindow (.int number) (.int size) query = (.error fault, query) := by
  have numbered : ensurePositive "Page" (.int number) = .ok number := if_neg (by omega)
  have sized : ensurePositive "Per-page" (.int size) = .ok size := if_neg (by omega)
  unfold pageWindow
  refine (Edit.bind_of_ok (by rfl)).trans ?_
  refine (Edit.bind_of_ok (Edit.lift_apply paged query)).trans ?_
  refine (Edit.bind_of_ok (Edit.lift_apply numbered query)).trans ?_
  refine (Edit.bind_of_ok (Edit.lift_apply sized query)).trans ?_
  exact Edit.bind_of_error refused

theorem pageOf_eq_ok {found later : Query} {world between after : σ} {counting : BoundStatement}
    (required : requireExecutor awaits link = .ok executor)
    (discovery : Discovery awaits link.introspector? query world (.ok ()) found between)
    (counted : found.buildCount = .ok counting)
    (came : numberFound executor counting between = .ok total) {answered : Page}
    (done : pageOf awaits hydrators link handle (number, size) query world =
      ((.ok answered, later), after)) :
    ∃ items, answered = ⟨items, total, number, size⟩ := by
  rw [pageOf_counted required discovery counted came, Work.get_bind] at done
  rcases Work.check_cases done with ⟨_, _, impossible, _⟩ | ⟨paged, _, done⟩
  · cases impossible
  rcases Work.bind_cases done with ⟨_, _, impossible⟩ | ⟨rows, _, _, _, done⟩
  · cases impossible
  rcases Work.check_cases (Work.of_get done) with ⟨_, _, impossible, _⟩ | ⟨items, _, done⟩
  · cases impossible
  cases done
  exact ⟨items, rfl⟩

end Query

open Query

namespace Session

variable {σ : Type} {link : Link σ} {hydrators : HydratorSource} {handle : HydratorHandle}
  {executor : Executor σ} {awaits : Bool} {number size total : Int} {session : Session σ}
  {found : Query} {between : σ}

theorem paginate_answers {page perPage : Value} (composed : session.query.Composed)
    (pages : session.query.Pages page perPage number size)
    (required : requireExecutor awaits link = .ok executor)
    (discovery : Discovery awaits link.introspector? session.query session.world (.ok ()) found
      between)
    (came : numberFound executor found.counting between = .ok total) {reply : Answer}
    (done : session.outcome hydrators link (.paginate awaits page perPage handle) = .ok reply) :
    ∃ items, (⟨items, total, number, size⟩ : Page).toRecord.map Answer.item = .ok reply := by
  let made := answer hydrators link (.paginate awaits page perPage handle) session.query
    session.world
  have ended : answer hydrators link (.paginate awaits page perPage handle) session.query
      session.world = ((made.1.1, made.1.2), made.2) := rfl
  obtain ⟨result, paged, same⟩ := paginate_answered ended
  rw [paginate_of_pages awaits hydrators link handle pages] at paged
  obtain ⟨answered, rfl, shaped⟩ := Outcome.bind_eq_ok (same.symm.trans done)
  obtain ⟨framed, -, -, counted⟩ := counted_framed composed pages.paged discovery
    session.query.limit? session.query.offset? (session.query.noting _).warnings
  obtain ⟨items, rfl⟩ := pageOf_eq_ok required framed counted came paged
  exact ⟨items, shaped⟩

theorem paginate_of_refused (session : Session σ) (hydrators : HydratorSource) (link : Link σ)
    (awaits : Bool) (handle : HydratorHandle) {fault : Fault}
    (paged : ensurePaged session.query.setup = .ok ()) (first : 1 ≤ number) (positive : 1 ≤ size)
    (refused : ensureLimit "Per-page" (.int size) session.query = (.error fault, session.query)) :
    let call : Call := .paginate awaits (.int number) (.int size) handle
    session.outcome hydrators link call = .error fault ∧
      (session.call hydrators link call).world = session.world := by
  have checked := pageWindow_of_refused paged first positive refused
  have ended : paginate awaits hydrators link (.int number) (.int size) handle session.query
      session.world = ((.error fault, session.query), session.world) := by
    rw [paginate_eq_pageOf]
    exact Work.bind_of_error (Work.edit_apply checked session.world)
  have answered := answered_of_paginate ended
  exact ⟨congrArg (fun made => made.1.1) answered, congrArg Prod.snd answered⟩

end Session

/-- Pages of up to `2 ^ 53` rows, by any number of rows per page. The last page is the exact
quotient, rounded up, and one at least, and there are more rows exactly if those up to the page are
not all of them. The windows of the pages up to the last one hold every row once. In a session where
no page of this size is admitted, each is refused before the world is talked to; in all others these
are the windows that are sent for the rows that were counted, and the answer is a page of that many
rows. Only if the rows per page have too many digits to be written, as a greatest limit with as many
digits lets them, nothing is sent after the count. -/
theorem pages_exact {total perPage : Int} (some_ : 0 ≤ total) (bounded : total ≤ Number.twoTo 53)
    (positive : 1 ≤ perPage) :
    let last := max 1 ⌈(total : ℚ) / perPage⌉
    (∀ items number,
      let page : Page := ⟨items, total, number, perPage⟩
      page.lastPage = .ok last ∧
        (1 ≤ number → page.hasMore = .ok (decide (number * perPage < total)))) ∧
    (∀ row, 0 ≤ row → row < total →
      ∃! number, (1 ≤ number ∧ number ≤ last) ∧
        Page.Shows perPage ((number - 1) * perPage) row) ∧
    ∀ (σ : Type) (hydrators : HydratorSource) (link : Link σ) (setup : QuerySetup) (world : σ)
      (calls : List Call) (awaits : Bool) (handle : HydratorHandle) (number : Int),
      let session := (Session.opened setup world).run hydrators link calls
      let call : Call := .paginate awaits (.int number) (.int perPage) handle
      let outcome := session.outcome hydrators link call
      let after := (session.call hydrators link call).world
      (¬ session.query.Pages (.int 1) (.int perPage) 1 perPage →
        after = session.world ∧ ∃ fault, outcome = .error fault) ∧
      ∀ executor found between,
        session.query.Pages (.int 1) (.int perPage) 1 perPage →
        requireExecutor awaits link = .ok executor →
        resolveWildcards awaits link.introspector? session.query session.world =
          ((.ok (), found), between) →
        numberFound executor found.counting between = .ok total →
        1 ≤ number → number ≤ last →
          (Text.isWritable perPage = true →
            after = executed executor between
              [found.counting, found.finding perPage ((number - 1) * perPage)]) ∧
          (Text.isWritable perPage = false →
            outcome = misused .wrongValue ∧
              after = executed executor between [found.counting]) ∧
          ∀ reply, outcome = .ok reply →
            ∃ items, (⟨items, total, number, perPage⟩ : Page).toRecord.map Answer.item =
              .ok reply := by
  intro last
  refine ⟨fun items number => ⟨?_, fun first => ?_⟩, fun row low high => ?_, ?_⟩
  · exact Page.lastPage_eq some_ bounded positive items number
  · exact Page.hasMore_eq some_ bounded positive items first
  · exact Page.exists_unique_shows positive low high
  intro σ hydrators link setup world calls awaits handle number session call outcome after
  constructor
  · intro none
    exact session.paginate_refused hydrators link awaits _ _ handle
      (.inl fun _ _ pages => none (pages.first))
  intro executor found between admitted required resolved came first within
  have composed : session.query.Composed := .run hydrators link setup world calls
  have pages : session.query.Pages (.int number) (.int perPage) number perPage :=
    admitted.renumbered first
  have discovery := resolveWildcards_discovery resolved
  have made : Paginates executor found between number perPage outcome after :=
    Session.paginates composed pages required discovery
  have skipped : Text.isWritable ((number - 1) * perPage) = true :=
    Page.skipped_writable some_ bounded positive first within
  refine ⟨fun few => made.counted total came few skipped, fun many => ?_, fun reply done => ?_⟩
  · exact made.unwritten total came (fun both => absurd (many.symm.trans both.1) (by decide))
  · exact Session.paginate_answers composed pages required discovery came done

theorem pages_exact_bound :
    (⟨[], Number.twoTo 53, 1, Number.twoTo 53 - 1⟩ : Page).lastPage = .ok 2 ∧
    (⟨[], Number.twoTo 53, 1, Number.twoTo 53 - 1⟩ : Page).hasMore = .ok true ∧
    (partnersCompiled.call ⟨HydratorRegistry.initial, []⟩ (Recorded.link countedLink)
      (.paginate false (.int 2) (.int 2) (.value .null))).world.sent =
        [partnersCompiled.query.counting, partnersCompiled.query.finding 2 ((2 - 1) * 2)] := by
  have large : (Number.twoTo 53 : Int) = 9007199254740992 := by decide
  have most : max 1 ⌈((Number.twoTo 53 : Int) : ℚ) / (Number.twoTo 53 - 1 : Int)⌉ = 2 := by
    rw [large]
    norm_num
  have few : max 1 ⌈((3 : Int) : ℚ) / (2 : Int)⌉ = 2 := by norm_num
  obtain ⟨pages, -⟩ := @pages_exact (Number.twoTo 53) (Number.twoTo 53 - 1) (by omega) (by omega)
    (by omega)
  obtain ⟨last, more⟩ := pages [] 1
  refine ⟨last.trans (congrArg _ most), (more (by omega)).trans ?_, ?_⟩
  · rw [large]
    rfl
  · have opened : Pages { setup := partnersUnder "base" } (.int 1) (.int 2) 1 2 :=
      ⟨rfl, rfl, rfl, rfl, false, rfl, fun impossible => absurd impossible Bool.false_ne_true⟩
    have admitted : partnersCompiled.query.Pages (.int 1) (.int 2) 1 2 :=
      opened.of_setup (Session.setup_run _ _ _ _ _)
    obtain ⟨-, -, paged⟩ := @pages_exact 3 2 (by omega) (by decide) (by omega)
    obtain ⟨made, -, -⟩ := (paged _ ⟨HydratorRegistry.initial, []⟩ (Recorded.link countedLink)
      (partnersUnder "base") ⟨(), []⟩
      [.attach .single (.text "profile") (.list [.text "name"]), .compile false] false
      (.value .null) 2).2 _ _ _ admitted rfl partnersCompiled_resolved rfl (by omega) few.ge
    have unsent : partnersCompiled.world.sent = [] := rfl
    have short : Text.isWritable 2 = true := by decide +kernel
    have sent := congrArg Recorded.sent (made short)
    have reached : (Session.opened (partnersUnder "base") ⟨(), []⟩).run
        ⟨HydratorRegistry.initial, []⟩ (Recorded.link countedLink)
        [.attach .single (.text "profile") (.list [.text "name"]), .compile false] =
          partnersCompiled := rfl
    rw [reached, Recorded.sent_executed, unsent] at sent
    exact sent

/-- Three rows by 501, or by a number of 4301 digits, are one page, and neither is ever asked for:
the first where limits are strict, and the second anywhere below so great a limit. -/
theorem pages_not_of_every_size :
    let hydrators : HydratorSource := ⟨HydratorRegistry.initial, []⟩
    let strict : QuerySetup :=
      { partnersUnder "base" with
        config := { Config.initial with strictLimitValidation := .bool true } }
    let many : Int := Number.tenTo 4300
    let call (perPage : Int) : Call := .paginate false (.int 1) (.int perPage) (.value .null)
    let refusing := Session.opened strict (⟨(), []⟩ : Recorded Unit)
    let tolerant := Session.opened (partnersUnder "base") (⟨(), []⟩ : Recorded Unit)
    (⟨[], 3, 1, 501⟩ : Page).lastPage = .ok 1 ∧ (⟨[], 3, 1, many⟩ : Page).lastPage = .ok 1 ∧
    refusing.outcome hydrators (Recorded.link countedLink) (call 501) =
      .error (.violation (.limitAbove "501" "500")) ∧
    (refusing.call hydrators (Recorded.link countedLink) (call 501)).world.sent = [] ∧
    tolerant.outcome hydrators (Recorded.link countedLink) (call many) = misused .wrongValue ∧
    (tolerant.call hydrators (Recorded.link countedLink) (call many)).world.sent = [] := by
  intro hydrators strict many call refusing tolerant
  have large : 3 ≤ many := by
    have more := Number.tenTo_pos 4299
    have tenfold : Number.tenTo 4300 = Number.tenTo 4299 * 10 := Number.tenTo_succ 4299
    change (3 : Int) ≤ (Number.tenTo 4300 : Nat)
    omega
  have positive : 1 ≤ many := by omega
  have above : Config.initial.maxLimit.exceededBy many = .ok true := by decide +kernel
  have digits : Text.isWritable many = false := by decide +kernel
  have exceeds : Config.initial.maxLimit.exceededBy 501 = .ok true := by decide +kernel
  have few : Text.isWritable 501 = true := by decide +kernel
  have most : Config.initial.maxLimit.isDisplayable = true := by decide +kernel
  obtain ⟨overruled, nothing⟩ := refusing.paginate_of_refused hydrators (Recorded.link countedLink)
    false (.value .null) rfl (Int.le_refl 1) (by omega : (1 : Int) ≤ 501)
    (ensureLimit_of_strict (by omega) exceeds rfl few most)
  obtain ⟨failed, unsent⟩ := tolerant.paginate_of_refused hydrators (Recorded.link countedLink)
    false (.value .null) rfl (Int.le_refl 1) positive
    (ensureLimit_of_unwritable (by omega) above digits)
  refine ⟨?_, ?_, overruled, ?_, failed, ?_⟩
  · rw [Page.lastPage_eq (by omega) (by decide) (by omega), Page.exactLast_of_le] <;> omega
  · rw [Page.lastPage_eq (by omega) (by decide) positive, Page.exactLast_of_le large positive]
  · rw [nothing]
    rfl
  · rw [unsent]
    rfl

end NestedSelect
