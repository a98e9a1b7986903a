import Mathlib.Data.Nat.Find
import Mathlib.Order.Bounds.Basic
import MarketFeed.Proofs.Except
import MarketFeed.Proofs.Json.Kept
import MarketFeed.Rest

namespace MarketFeed

namespace Reply

variable {status : Nat} {body : String}

def GivesCode (body : String) : Prop :=
  ∃ v, Json.ofText? body = some v ∧ ((v.get? "code").isSome ∨ (v.get? "error_code").isSome)

lemma isSome_venueError?_iff : (venueError? body).isSome = true ↔ GivesCode body := by
  rw [venueError?, GivesCode]
  cases Json.ofText? body with
  | none => simp
  | some v =>
    cases hc : v.get? "code" with
    | none => cases he : v.get? "error_code" <;> simp [hc, he]
    | some code => simp [hc]

lemma givesCode_of_one_code : GivesCode "\x7b\"code\":\"1\"\x7d" := by
  have hfits : Json.Fits 0 (.obj [("code", .str "1")]) :=
    Json.fits_obj_iff.mpr ⟨by decide, List.forall_mem_singleton.mpr (Json.fits_str (by decide) "1")⟩
  have htext : "\x7b\"code\":\"1\"\x7d" = (Json.obj [("code", .str "1")]).compact := rfl
  rw [htext, GivesCode, Json.ofText?_compact hfits]
  exact ⟨_, rfl, Or.inl rfl⟩

lemma isTransient_iff : isTransient status = true ↔ status = 429 ∨ 500 ≤ status ∧ status < 600 := by
  simp [isTransient, or_comm]

lemma isRetryable_status_iff :
    (RestError.status status body).isRetryable = true ↔ status = 429 ∨ 500 ≤ status := by
  simp [RestError.isRetryable, or_comm]

lemma isRetryable_statusError_of_code (h : GivesCode body) :
    (statusError status body).isRetryable = true ↔ status = 429 ∨ 500 ≤ status ∧ status < 600 := by
  obtain ⟨⟨code, text⟩, he⟩ := Option.isSome_iff_exists.mp (isSome_venueError?_iff.mpr h)
  rw [← isTransient_iff, statusError, he]
  cases ht : isTransient status with
  | false => simp [RestError.isRetryable]
  | true =>
    have hs : status = 429 ∨ 500 ≤ status := (isTransient_iff.mp ht).imp_right And.left
    simpa using isRetryable_status_iff.mpr hs

lemma isRetryable_statusError_of_no_code (h : ¬ GivesCode body) :
    (statusError status body).isRetryable = true ↔ status = 429 ∨ 500 ≤ status := by
  have he : venueError? body = none := by
    rwa [← isSome_venueError?_iff, Bool.not_eq_true, Option.isSome_eq_false_iff,
      Option.isNone_iff_eq_none] at h
  rw [statusError, he]
  exact isRetryable_status_iff

/-- A refusal is worth another attempt exactly if its status is 429 or at least 500, except that
beyond 599 it is not if the body gives a code. So the status alone decides exactly below 600, and
two bodies are treated alike exactly if the status is below 600 or both or neither give a code. -/
theorem refusal_retryable_iff (status : Nat) (body : String) :
    ((statusError status body).isRetryable = true ↔
        status = 429 ∨ 500 ≤ status ∧ (status < 600 ∨ ¬ GivesCode body)) ∧
      (∀ body', (statusError status body).isRetryable = (statusError status body').isRetryable ↔
        (status < 600 ∨ (GivesCode body ↔ GivesCode body'))) ∧
      ((∀ body, (statusError status body).isRetryable = true ↔ status = 429 ∨ 500 ≤ status) ↔
        status < 600) := by
  have hexact : ∀ body, (statusError status body).isRetryable = true ↔
      status = 429 ∨ 500 ≤ status ∧ (status < 600 ∨ ¬ GivesCode body) := by
    intro body
    by_cases h : GivesCode body
    · simp [isRetryable_statusError_of_code h, h]
    · simp [isRetryable_statusError_of_no_code h, h]
  refine ⟨hexact body, fun body' => ?_, ?_⟩
  · rw [Bool.eq_iff_iff, hexact, hexact]
    by_cases hs : status < 600
    · simp [hs]
    · have hge : 500 ≤ status := by omega
      have hne : status ≠ 429 := by omega
      simp [hs, hge, hne, not_iff_not]
  · simp only [hexact]
    constructor
    · intro h
      by_contra hs
      rcases (h _).mpr (Or.inr (by omega)) with h429 | ⟨_, hlt | hno⟩
      · omega
      · exact hs hlt
      · exact hno givesCode_of_one_code
    · intro hs body
      simp [hs]

theorem refusal_above_599_decided_by_body :
    (statusError 600 "\x7b\"code\":\"1\"\x7d").isRetryable = false ∧
      (statusError 600 "").isRetryable = true := by
  have hnone : Json.ofText? "" = none := by cbv
  have hempty : ¬ GivesCode "" := by simp [GivesCode, hnone]
  refine ⟨?_, (isRetryable_statusError_of_no_code hempty).mpr (by decide)⟩
  rw [← Bool.not_eq_true, isRetryable_statusError_of_code givesCode_of_one_code]
  decide

lemma read_eq_ok_iff {reply : Reply} {v : Json} : reply.read = .ok v ↔
    ∃ status body, reply = .answer status body ∧ 200 ≤ status ∧ status < 300 ∧
      Json.ofText? body = some v := by
  cases reply with
  | lost => simp [read]
  | answer status body =>
    rw [read]
    by_cases hs : isSuccess status = true
    · have hrange : 200 ≤ status ∧ status < 300 := by simpa [isSuccess] using hs
      cases hv : Json.ofText? body <;> simp [hs, hrange, hv]
    · have hrange : 200 ≤ status → 300 ≤ status := by simpa [isSuccess] using hs
      simp only [hs, if_false, reduceCtorEq, answer.injEq, false_iff, not_exists, not_and]
      rintro _ _ ⟨rfl, rfl⟩ hge hlt
      omega

end Reply

namespace RestClient

variable {α : Type} {outcome outcome' : Nat → Except RestError α} {first left retries k : Nat}

def Settles (outcome : Nat → Except RestError α) (retries n : Nat) : Prop :=
  (∃ a, outcome n = .ok a) ∨ (∃ e, outcome n = .error e ∧ e.isRetryable = false) ∨ n = retries

lemma not_settles_iff : ¬ Settles outcome retries k ↔
    (∃ e, outcome k = .error e ∧ e.isRetryable = true) ∧ k ≠ retries := by
  rw [Settles]
  cases outcome k with
  | ok a => simp
  | error e => simp

lemma attempt_of_settles (h : Settles outcome (first + left) first) :
    attempt outcome first left = (outcome first, first + 1) := by
  cases left with
  | zero => rfl
  | succ left =>
    rw [attempt]
    rcases h with ⟨a, ha⟩ | ⟨e, he, hr⟩ | hlast
    · simp [ha]
    · simp [he, hr]
    · omega

lemma attempt_of_not_settles (h : ¬ Settles outcome (first + (left + 1)) first) :
    attempt outcome first (left + 1) = attempt outcome (first + 1) left := by
  obtain ⟨⟨e, he, hr⟩, _⟩ := not_settles_iff.mp h
  simp [attempt, he, hr]

lemma attempt_eq (h : IsLeast {n | first ≤ n ∧ Settles outcome (first + left) n} k) :
    attempt outcome first left = (outcome k, k + 1) := by
  induction left generalizing first with
  | zero =>
    obtain rfl : k = first := le_antisymm (h.2 ⟨le_rfl, Or.inr (Or.inr rfl)⟩) h.1.1
    rfl
  | succ left ih =>
    by_cases hs : Settles outcome (first + (left + 1)) first
    · obtain rfl : k = first := le_antisymm (h.2 ⟨le_rfl, hs⟩) h.1.1
      exact attempt_of_settles hs
    · have hne : k ≠ first := fun he => hs (he ▸ h.1.2)
      rw [attempt_of_not_settles hs]
      refine ih ⟨⟨by have := h.1.1; omega, ?_⟩, fun n hn => h.2 ⟨by have := hn.1; omega, ?_⟩⟩
      · rw [Nat.add_right_comm]
        exact h.1.2
      · have := hn.2
        rwa [Nat.add_right_comm] at this

lemma exists_first_settling (outcome : Nat → Except RestError α) (retries : Nat) :
    ∃ k, IsLeast {n | Settles outcome retries n} k := by
  classical
  have h : ∃ n, Settles outcome retries n := ⟨retries, Or.inr (Or.inr rfl)⟩
  exact ⟨Nat.find h, Nat.find_spec h, fun n hn => Nat.find_min' h hn⟩

lemma attempt_of_first (h : IsLeast {n | Settles outcome retries n} k) :
    attempt outcome 0 retries = (outcome k, k + 1) := by
  refine attempt_eq ?_
  simpa using h

lemma first_settling_congr (h : IsLeast {n | Settles outcome retries n} k)
    (hbefore : ∀ n < k, ∃ e, outcome' n = .error e ∧ e.isRetryable = true)
    (hk : outcome' k = outcome k) : IsLeast {n | Settles outcome' retries n} k := by
  have hle : k ≤ retries := h.2 (Or.inr (Or.inr rfl))
  refine ⟨?_, fun n hn => ?_⟩
  · change Settles outcome' retries k
    rw [Settles, hk]
    exact h.1
  · by_contra hlt
    rw [not_le] at hlt
    exact not_settles_iff.mpr ⟨hbefore n hlt, by omega⟩ hn

end RestClient

namespace Service

variable {s : Service} {net : Network} {symbol venueId : String} {k : Nat}

lemma readSnapshot_eq_ok_iff {response : Json} {shot : Snapshot} :
    s.readSnapshot response = .ok shot ↔ ∃ read, s.venue.readSnapshot response = .ok read ∧
      shot = { read with raw := some response } := by
  rw [readSnapshot]
  cases s.venue.readSnapshot response with
  | error e => simp
  | ok read => simp [eq_comm]

lemma snapshot_of_listed (h : s.directory.venueId? symbol = some venueId)
    (hk : s.client.get net (s.venue.snapshotPath venueId s.depth) =
      ((net (s.venue.snapshotPath venueId s.depth) k).read, k + 1)) :
    s.snapshot net symbol =
      ⟨((net (s.venue.snapshotPath venueId s.depth) k).read.mapError RestError.toFetch).bind
          s.readSnapshot,
        List.replicate (k + 1) (s.venue.snapshotPath venueId s.depth)⟩ := by
  rw [snapshot, h]
  simp only [hk]

end Service

/-- A question is asked until it is answered, or fails for good, or no attempts are left: it takes
just the requests up to the first of these, whose outcome is returned whatever the failures before
it were and whatever would have come after it. A snapshot is read from the body of that outcome, and
a symbol that is not listed is never asked for. -/
theorem asked_until_settled (retries : Nat) (outcome : Nat → Except RestError Json) (s : Service)
    (net : Network) (symbol : String) :
    (∃ k, IsLeast {n | RestClient.Settles outcome retries n} k ∧
      RestClient.attempt outcome 0 retries = (outcome k, k + 1) ∧
        ∀ outcome' : Nat → Except RestError Json,
          (∀ n < k, ∃ e, outcome' n = .error e ∧ e.isRetryable = true) → outcome' k = outcome k →
            RestClient.attempt outcome' 0 retries = (outcome k, k + 1)) ∧
      (∀ venueId, s.directory.venueId? symbol = some venueId →
        let path := s.venue.snapshotPath venueId s.depth
        ∃ k, IsLeast {n | RestClient.Settles (fun n => (net path n).read) s.client.retries n} k ∧
          (s.snapshot net symbol).requests = List.replicate (k + 1) path ∧
          (∀ e, (net path k).read = .error e → (s.snapshot net symbol).result = .error e.toFetch) ∧
          ∀ shot, (s.snapshot net symbol).result = .ok shot ↔ ∃ status body response read,
            net path k = .answer status body ∧ 200 ≤ status ∧ status < 300 ∧
              Json.ofText? body = some response ∧ s.venue.readSnapshot response = .ok read ∧
                shot = { read with raw := some response }) ∧
      (s.directory.venueId? symbol = none →
        (s.snapshot net symbol).result = .error (.unknownSymbol symbol) ∧
          (s.snapshot net symbol).requests = []) := by
  refine ⟨?_, fun venueId hid => ?_, fun hnone => ?_⟩
  · obtain ⟨k, hk⟩ := RestClient.exists_first_settling outcome retries
    refine ⟨k, hk, RestClient.attempt_of_first hk, fun outcome' hbefore he => ?_⟩
    rw [RestClient.attempt_of_first (RestClient.first_settling_congr hk hbefore he), he]
  · intro path
    obtain ⟨k, hk⟩ := RestClient.exists_first_settling (fun n => (net path n).read) s.client.retries
    have hshot := Service.snapshot_of_listed hid (RestClient.attempt_of_first hk)
    refine ⟨k, hk, by rw [hshot], fun e he => ?_, fun shot => ?_⟩
    · rw [hshot]
      change ((net path k).read.mapError RestError.toFetch).bind s.readSnapshot = _
      rw [he]
      rfl
    · have hok : (s.snapshot net symbol).result = .ok shot ↔
          ∃ response, (net path k).read = .ok response ∧ s.readSnapshot response = .ok shot := by
        rw [hshot]
        exact bind_eq_ok_iff.trans (exists_congr fun _ => and_congr_left' mapError_eq_ok_iff)
      simp only [hok, Reply.read_eq_ok_iff, Service.readSnapshot_eq_ok_iff]
      constructor
      · rintro ⟨response, ⟨status, body, hreply, hge, hlt, hv⟩, read, hread, rfl⟩
        exact ⟨status, body, response, read, hreply, hge, hlt, hv, hread, rfl⟩
      · rintro ⟨status, body, response, read, hreply, hge, hlt, hv, hread, rfl⟩
        exact ⟨response, ⟨status, body, hreply, hge, hlt, hv⟩, read, hread, rfl⟩
  · rw [Service.snapshot, hnone]
    exact ⟨rfl, rfl⟩

theorem asked_until_settled_after_one_failure :
    let response : Json := .obj [("code", .str "200000"), ("data", .obj [("asks", .arr []),
      ("bids", .arr [.arr [.str "99", .str "10"]]), ("sequence", .str "10")])]
    let net : Network := fun _ n => if n = 0 then .answer 503 "" else .answer 200 response.compact
    let dir : Directory := ⟨.kucoin, [("BTC-USDT", ⟨.of "BTC" "USDT" .spot, "BTC-USDT"⟩)]⟩
    let s : Service := ⟨⟨"http://localhost", [], 3, 0⟩, .kucoin, dir, 100⟩
    let path := "/api/v3/market/orderbook/level2?symbol=BTC-USDT"
    (s.snapshot net "BTC-USDT").requests = [path, path] ∧
      (∃ shot, (s.snapshot net "BTC-USDT").result = .ok shot ∧ shot.sequence = some 10 ∧
        shot.raw = some response) ∧
      (s.snapshot net "DOGE-USDT").result = .error (.unknownSymbol "DOGE-USDT") ∧
      (s.snapshot net "DOGE-USDT").requests = [] := by
  intro response net dir s path
  have hstr : ∀ text level, level ≤ 4 → Json.Fits level (.str text) := fun text level h =>
    Json.fits_str (h.trans (by decide)) text
  have hfits : Json.Fits 0 response := by
    simp [response, Json.fits_obj_iff, Json.fits_arr_iff, hstr, Json.maxDepth]
  have hbody : Json.ofText? response.compact = some response := Json.ofText?_compact hfits
  obtain ⟨read, hread, hsequence⟩ : ∃ read, s.venue.readSnapshot response = .ok read ∧
      read.sequence = some 10 := ⟨_, rfl, rfl⟩
  have hanswer : (net path 1).read = .ok response :=
    Reply.read_eq_ok_iff.mpr ⟨200, response.compact, rfl, by decide, by decide, hbody⟩
  have hid : dir.venueId? "BTC-USDT" = some "BTC-USDT" := rfl
  obtain ⟨_, hlisted, _⟩ :=
    asked_until_settled 3 (fun n => (net path n).read) s net "BTC-USDT"
  obtain ⟨k, hk, hrequests, _, hok⟩ := hlisted "BTC-USDT" hid
  obtain rfl : k = 1 := by
    have hle : k ≤ 1 := hk.2 (Or.inl ⟨response, hanswer⟩)
    have hne : k ≠ 0 := by
      rintro rfl
      have hlost : ¬ RestClient.Settles (fun n => (net path n).read) 3 0 :=
        RestClient.not_settles_iff.mpr ⟨⟨.status 503 "", rfl, rfl⟩, by decide⟩
      exact hlost hk.1
    omega
  obtain ⟨_, _, hunlisted⟩ :=
    asked_until_settled 3 (fun n => (net path n).read) s net "DOGE-USDT"
  exact ⟨hrequests, ⟨_, (hok _).mpr ⟨200, response.compact, response, read, rfl, by decide,
    by decide, hbody, hread, rfl⟩, hsequence, rfl⟩, hunlisted rfl⟩

end MarketFeed
