import Mathlib.Data.List.TakeWhile
import SolidityAudit.Proofs.HandedSource
import SolidityAudit.Proofs.ScanOutcome

/-!
# The Limit on Bodies

What the limit on bodies enforces. It never looks at a body. It takes the word of the
request, and a request can say three kinds of things: it states a length by a numeral,
it says something made of digits that cannot be converted, or it says nothing of the
kind. Each request is in exactly one of the three (`declaredSize_cases`), and each
kind has its own outcome:

* A stated length decides, so a request that states the length of its body is refused
  exactly if that body is too long.
* A request that says nothing is let through, however long its body is.
* Digits that cannot be converted are a failure. A raised digit is one way to come to
  that; the other is a numeral with too many digits, which may well state the length of
  the body, since zeros in front count.

In the first case what stands inside is called or not called, which is said by how the
outcome depends on it: not at all, or in no other way than by being it.

## Main definitions

* `Request.States`: A request states a length by a numeral.
* `Request.Illegible`: A request states something that cannot be converted.
* `Request.Mute`: A request states nothing.
* `Admits`, `Refuses`, `Breaks`: What the limit does with a request.

## Theorems

* `declaredSize_cases`: What is read from each kind of request.
* `serve_illegible`: What a verification is answered whose length cannot be read.
* `limited_by_stated_length`: What the limit does with each kind of request.
-/

namespace SolidityAudit

namespace Http

/-! ## What a request says -/

namespace Request

/-- The request states a length, by a numeral of any number of digits. -/
def States (r : Request) (n : Nat) : Prop :=
  ∃ s, r.header? "content-length" = some s ∧ s.toList ≠ [] ∧
    (∀ c ∈ s.toList, Text.isAsciiDigit c = true) ∧ Text.natOfDigits s.toList = n

/-- The request has digits where a length should stand, but they cannot be converted: one of
    them is raised, or there are too many. -/
def Illegible (r : Request) : Prop :=
  ∃ s, r.header? "content-length" = some s ∧ s.toList ≠ [] ∧
    (∀ c ∈ s.toList, isHeaderDigit c = true) ∧
    ((∃ c ∈ s.toList, Text.isAsciiDigit c = false) ∨ Numeral.digitLimit < s.toList.length)

/-- The request has nothing where a length should stand, or something else than digits. -/
def Mute (r : Request) : Prop :=
  ∀ s, r.header? "content-length" = some s →
    s.toList = [] ∨ ∃ c ∈ s.toList, isHeaderDigit c = false

end Request

theorem isHeaderDigit_of_isAsciiDigit {c : Char} (h : Text.isAsciiDigit c = true) :
    isHeaderDigit c = true := by
  simp [isHeaderDigit, h]

/-- The digits up to the first raised one are all there are, or there is a raised one. -/
theorem takeWhile_isAsciiDigit_cases (cs : List Char) :
    ((∀ c ∈ cs, Text.isAsciiDigit c = true) ∧ cs.takeWhile Text.isAsciiDigit = cs) ∨
      ((∃ c ∈ cs, Text.isAsciiDigit c = false) ∧
        (cs.takeWhile Text.isAsciiDigit).length < cs.length) := by
  by_cases hall : ∀ c ∈ cs, Text.isAsciiDigit c = true
  · exact .inl ⟨hall, List.takeWhile_eq_self_iff.mpr hall⟩
  · have hne : cs.takeWhile Text.isAsciiDigit ≠ cs :=
      fun heq => hall (List.takeWhile_eq_self_iff.mp heq)
    have hinitial := List.takeWhile_prefix (l := cs) Text.isAsciiDigit
    have hle := hinitial.length_le
    have hlength : (cs.takeWhile Text.isAsciiDigit).length ≠ cs.length :=
      fun heq => hne (hinitial.eq_of_length heq)
    push Not at hall
    rcases hall with ⟨c, hc, hdigit⟩
    refine .inr ⟨⟨c, hc, ?_⟩, by omega⟩
    simpa using hdigit

/-- What is read from a request by the kind of thing it says. -/
theorem declaredSize_cases (r : Request) :
    (r.Mute ∧ declaredSize r = .ok none) ∨
      (r.Illegible ∧ ∃ message, declaredSize r = .error (.ofMessage "ValueError" message)) ∨
      (¬ r.Illegible ∧ ∃ n, r.States n ∧ declaredSize r = .ok (some n)) := by
  unfold declaredSize
  cases hheader : r.header? "content-length" with
  | none =>
      refine .inl ⟨fun s hs => ?_, rfl⟩
      rw [hheader] at hs
      exact absurd hs (Option.some_ne_none s).symm
  | some s =>
      dsimp only
      by_cases hdigits : s.toList ≠ [] ∧ ∀ c ∈ s.toList, isHeaderDigit c = true
      · have hcheck : (s.toList.isEmpty || !s.toList.all isHeaderDigit) = false := by
          simpa using hdigits
        rw [hcheck, if_neg Bool.false_ne_true]
        rcases takeWhile_isAsciiDigit_cases s.toList with ⟨hplain, hrun⟩ | ⟨hraised, hshort⟩
        · -- Plain digits: only their number can be in the way.
          rw [hrun]
          by_cases hlong : Numeral.digitLimit < s.toList.length
          · rw [if_pos hlong]
            exact .inr (.inl ⟨⟨s, hheader, hdigits.1, hdigits.2, .inr hlong⟩, _, rfl⟩)
          · rw [if_neg hlong, if_neg (Nat.lt_irrefl _)]
            refine .inr (.inr ⟨?_, _, ⟨s, hheader, hdigits.1, hplain, rfl⟩, rfl⟩)
            rintro ⟨s', hs', _, _, hraised | hlong'⟩
            · rw [hheader, Option.some.injEq] at hs'
              rcases hraised with ⟨c, hc, hraised⟩
              rw [← hs'] at hc
              exact Bool.false_ne_true (hraised.symm.trans (hplain c hc))
            · rw [hheader, Option.some.injEq] at hs'
              rw [← hs'] at hlong'
              exact hlong hlong'
        · -- A raised digit: the conversion fails at it, or before that for the digits in front.
          refine .inr (.inl ⟨⟨s, hheader, hdigits.1, hdigits.2, .inl hraised⟩, ?_⟩)
          by_cases hlong : Numeral.digitLimit < (s.toList.takeWhile Text.isAsciiDigit).length
          · rw [if_pos hlong]
            exact ⟨_, rfl⟩
          · rw [if_neg hlong, if_pos hshort]
            exact ⟨_, rfl⟩
      · have hcheck : (s.toList.isEmpty || !s.toList.all isHeaderDigit) = true := by
          by_contra hc
          exact hdigits (by simpa using hc)
        rw [if_pos hcheck]
        refine .inl ⟨fun s' hs' => ?_, rfl⟩
        rw [hheader, Option.some.injEq] at hs'
        rw [← hs']
        -- Either there is nothing, or one of the characters is no digit.
        by_cases hempty : s.toList = []
        · exact .inl hempty
        · refine .inr ?_
          by_contra hall
          push Not at hall
          exact hdigits ⟨hempty, fun c hc => by simpa using hall c hc⟩

section Kinds

variable {r : Request} {n : Nat}

theorem not_mute {s : String} (hs : r.header? "content-length" = some s) (hne : s.toList ≠ [])
    (hdigits : ∀ c ∈ s.toList, isHeaderDigit c = true) : ¬ r.Mute := by
  intro hmute
  rcases hmute s hs with hempty | ⟨c, hc, hother⟩
  · exact hne hempty
  · exact Bool.false_ne_true (hother.symm.trans (hdigits c hc))

theorem not_mute_of_states (h : r.States n) : ¬ r.Mute := by
  rcases h with ⟨s, hs, hne, hdigits, _⟩
  exact not_mute hs hne fun c hc => isHeaderDigit_of_isAsciiDigit (hdigits c hc)

theorem not_mute_of_illegible (h : r.Illegible) : ¬ r.Mute := by
  rcases h with ⟨s, hs, hne, hdigits, _⟩
  exact not_mute hs hne hdigits

theorem declaredSize_of_mute (h : r.Mute) : declaredSize r = .ok none := by
  rcases declaredSize_cases r with ⟨_, hsize⟩ | ⟨hillegible, _⟩ | ⟨_, m, hm, _⟩
  · exact hsize
  · exact absurd h (not_mute_of_illegible hillegible)
  · exact absurd h (not_mute_of_states hm)

theorem declaredSize_of_illegible (h : r.Illegible) :
    ∃ message, declaredSize r = .error (.ofMessage "ValueError" message) := by
  rcases declaredSize_cases r with ⟨hmute, _⟩ | ⟨_, hsize⟩ | ⟨hlegible, _⟩
  · exact absurd hmute (not_mute_of_illegible h)
  · exact hsize
  · exact absurd h hlegible

/-- A stated length that can be converted is what is read. -/
theorem declaredSize_of_states (h : r.States n) (hlegible : ¬ r.Illegible) :
    declaredSize r = .ok (some n) := by
  rcases declaredSize_cases r with ⟨hmute, _⟩ | ⟨hillegible, _⟩ | ⟨_, m, hm, hsize⟩
  · exact absurd hmute (not_mute_of_states h)
  · exact absurd hillegible hlegible
  · -- One text states one length.
    rcases h with ⟨s, hs, _, _, rfl⟩
    rcases hm with ⟨s', hs', _, _, rfl⟩
    rw [hs, Option.some.injEq] at hs'
    rw [hsize, hs']

end Kinds

/-! ## What the limit does -/

/-- The request is handed to what stands inside, and that is all. -/
def Admits (limit : Int) (e : Exchange) (st : State) : Prop :=
  ∀ next, limited limit next e st = next e st

/-- The request is answered with status 413 for a size, and what stands inside is not
    asked. -/
def Refuses (limit : Int) (size : Nat) (e : Exchange) (st : State) : Prop :=
  ∀ next, (limited limit next e st).state = st ∧
    (limited limit next e st).result = .ok (.ofJson 413 (envelope e.requestId .payloadTooLarge
      ("Request body too large: " ++ toString size ++ " bytes (max: " ++ toString limit ++ ")")
      none))

/-- Handling the request fails, and what stands inside is not asked. -/
def Breaks (limit : Int) (e : Exchange) (st : State) : Prop :=
  ∃ message, ∀ next, limited limit next e st = .failed e st (.ofMessage "ValueError" message)

section Limit

variable {e : Exchange} (hmethod : e.request.method ∈ limitedMethods)
include hmethod

theorem not_exempt : ¬ (!limitedMethods.contains e.request.method) = true := by
  have hcontains : limitedMethods.contains e.request.method = true := by
    simpa using hmethod
  rw [hcontains]
  decide

theorem admits_of_mute (h : e.request.Mute) (limit : Int) (st : State) : Admits limit e st := by
  intro next
  unfold limited
  rw [if_neg (not_exempt hmethod), declaredSize_of_mute h]

theorem breaks_of_illegible (h : e.request.Illegible) (limit : Int) (st : State) :
    Breaks limit e st := by
  rcases declaredSize_of_illegible h with ⟨message, hsize⟩
  refine ⟨message, fun next => ?_⟩
  unfold limited
  rw [if_neg (not_exempt hmethod), hsize]

theorem refuses_of_states {n : Nat} {limit : Int} (h : e.request.States n)
    (hlegible : ¬ e.request.Illegible) (hlt : limit < n) (st : State) :
    Refuses limit n e st := by
  intro next
  unfold limited
  rw [if_neg (not_exempt hmethod), declaredSize_of_states h hlegible]
  simp only [if_pos hlt]
  exact ⟨rfl, rfl⟩

theorem admits_of_states {n : Nat} {limit : Int} (h : e.request.States n)
    (hlegible : ¬ e.request.Illegible) (hle : ¬ limit < n) (st : State) :
    Admits limit e st := by
  intro next
  unfold limited
  rw [if_neg (not_exempt hmethod), declaredSize_of_states h hlegible]
  simp only [if_neg hle]

end Limit

/-- A request for verification that states something that cannot be converted is answered with
    status 500, whatever its source is. -/
theorem serve_illegible {s : Service} {e : Exchange} (hasks : asksVerify e.request = true)
    (h : e.request.Illegible) (st : State) : (serve s e st).response.status = 500 := by
  -- Verification is asked for by a method with a body.
  have hmethod : e.request.method ∈ limitedMethods := by
    have hsubset : Route.verify.methods ⊆ limitedMethods := by decide
    exact hsubset (List.contains_iff_mem.mp (asksVerify_eq_true hasks).2)
  rcases breaks_of_illegible hmethod h s.settings.maxRequestBytes st with ⟨message, hbreaks⟩
  rw [status_serve, statusOf_layered, hbreaks]
  rfl

/-- What the limit does with a request whose method has a body. If the request states a
    length that can be converted, be it the length of its body or not, it is refused
    exactly if that length is beyond the limit, with status 413 and without a call of what
    stands inside, and otherwise what stands inside is called. If it states nothing, what
    stands inside is called, whatever the body is. If it states something that cannot be
    converted, handling it fails. There are no other requests. -/
theorem limited_by_stated_length (limit : Int) {e : Exchange}
    (hmethod : e.request.method ∈ limitedMethods) (st : State) :
    (∀ n, e.request.States n → ¬ e.request.Illegible →
        (limit < n → Refuses limit n e st) ∧ (¬ limit < n → Admits limit e st)) ∧
      (e.request.Mute → Admits limit e st) ∧
      (e.request.Illegible → Breaks limit e st) ∧
      (e.request.Mute ∨ e.request.Illegible ∨ ∃ n, e.request.States n) := by
  refine ⟨fun n hstates hlegible => ⟨fun hlt => ?_, fun hle => ?_⟩, fun hmute => ?_,
    fun hillegible => ?_, ?_⟩
  · exact refuses_of_states hmethod hstates hlegible hlt st
  · exact admits_of_states hmethod hstates hlegible hle st
  · exact admits_of_mute hmethod hmute limit st
  · exact breaks_of_illegible hmethod hillegible limit st
  · rcases declaredSize_cases e.request with ⟨hmute, _⟩ | ⟨hillegible, _⟩ | ⟨_, n, hstates, _⟩
    · exact .inl hmute
    · exact .inr (.inl hillegible)
    · exact .inr (.inr ⟨n, hstates⟩)

/-- A body of five bytes. What is said about its length is up to the headers. -/
def fiveBytes (headers : List (String × String)) : Exchange where
  request := {
    method := "POST"
    path := Route.verify.path
    headers := headers
    body := [104, 101, 108, 108, 111] }

theorem header?_fiveBytes (length : String) :
    (fiveBytes [("Content-Length", length)]).request.header? "content-length" = some length := by
  have hname : lower "Content-Length" = "content-length" := by decide +kernel
  simp [fiveBytes, Request.header?, hname]

/-- A length of five that is stated as such is beyond a limit of four. -/
theorem limited_by_stated_length_five :
    (fiveBytes [("Content-Length", "5")]).request.States 5 ∧
      Refuses 4 5 (fiveBytes [("Content-Length", "5")])
        ⟨{}, stillSupplies, .constant "7"⟩ := by
  have hdigits : ∀ c ∈ "5".toList, Text.isAsciiDigit c = true :=
    List.all_eq_true.mp (by decide +kernel)
  have hstates : (fiveBytes [("Content-Length", "5")]).request.States 5 :=
    ⟨"5", header?_fiveBytes "5", by decide, hdigits, by decide +kernel⟩
  have hlegible : ¬ (fiveBytes [("Content-Length", "5")]).request.Illegible := by
    rintro ⟨s, hs, _, _, hother⟩
    rw [header?_fiveBytes, Option.some.injEq] at hs
    rw [← hs] at hother
    rcases hother with ⟨c, hc, hraised⟩ | hlong
    · exact absurd (hraised.symm.trans (hdigits c hc)) Bool.false_ne_true
    · exact absurd hlong (by decide +kernel)
  have hlimited := limited_by_stated_length 4 (e := fiveBytes [("Content-Length", "5")])
    (by decide) ⟨{}, stillSupplies, .constant "7"⟩
  exact ⟨hstates, (hlimited.1 5 hstates hlegible).1 (by decide)⟩

/-- A five with a number of zeros in front of it. -/
def paddedFive (zeros : Nat) : List Char :=
  List.replicate zeros '0' ++ ['5']

theorem isAsciiDigit_of_mem_paddedFive {zeros : Nat} {c : Char} (h : c ∈ paddedFive zeros) :
    Text.isAsciiDigit c = true := by
  rcases List.mem_append.mp h with hzero | hfive
  · rw [List.eq_of_mem_replicate hzero]
    decide
  · rw [List.mem_singleton.mp hfive]
    decide

theorem natOfDigits_paddedFive (zeros : Nat) : Text.natOfDigits (paddedFive zeros) = 5 := by
  induction zeros with
  | zero => rfl
  | succ zeros ih =>
      rw [← ih, paddedFive, List.replicate_succ, List.cons_append]
      rfl

/-- A five with zeros in front is a five, but there may be too many of them. -/
theorem paddedFive_states (zeros : Nat) :
    (fiveBytes [("Content-Length", String.ofList (paddedFive zeros))]).request.States 5 := by
  refine ⟨_, header?_fiveBytes _, ?_⟩
  rw [String.toList_ofList]
  exact ⟨by simp [paddedFive], fun c => isAsciiDigit_of_mem_paddedFive,
    natOfDigits_paddedFive zeros⟩

theorem paddedFive_illegible {zeros : Nat} (h : Numeral.digitLimit ≤ zeros) :
    (fiveBytes [("Content-Length", String.ofList (paddedFive zeros))]).request.Illegible := by
  refine ⟨_, header?_fiveBytes _, ?_⟩
  rw [String.toList_ofList]
  refine ⟨by simp [paddedFive], fun c hc => ?_, .inr ?_⟩
  · exact isHeaderDigit_of_isAsciiDigit (isAsciiDigit_of_mem_paddedFive hc)
  · simp only [paddedFive, List.length_append, List.length_replicate, List.length_singleton]
    omega

/-- A body beyond the limit is let through if nothing is said about its length. A body within
    the limit whose length is stated with many zeros in front makes handling it fail. -/
theorem limit_evaded :
    (4 < (fiveBytes []).request.body.length ∧
        Admits 4 (fiveBytes []) ⟨{}, stillSupplies, .constant "7"⟩) ∧
      (fiveBytes [("Content-Length", String.ofList (paddedFive 4300))]).request.States 5 ∧
      (fiveBytes [("Content-Length", String.ofList (paddedFive 4300))]).request.body.length = 5 ∧
      Breaks 5 (fiveBytes [("Content-Length", String.ofList (paddedFive 4300))])
        ⟨{}, stillSupplies, .constant "7"⟩ := by
  have hmute : (fiveBytes []).request.Mute := by
    intro s hs
    exact absurd hs (Option.some_ne_none s).symm
  refine ⟨⟨by decide, admits_of_mute (by decide) hmute 4 _⟩, paddedFive_states 4300, rfl, ?_⟩
  exact breaks_of_illegible (by decide) (paddedFive_illegible (by decide)) 5 _

end Http

end SolidityAudit
