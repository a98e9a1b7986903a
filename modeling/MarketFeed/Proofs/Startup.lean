import MarketFeed.Proofs.Gateway

namespace MarketFeed.Gateway

variable {c : GatewayConfig} {cs : List ExchangeConfig}

lemma valid_of_enabled (h : c.validate = .ok ()) : ∀ e ∈ c.enabled, e.validate = .ok () := by
  rw [GatewayConfig.validate] at h
  split at h
  · cases h
  · exact forM_eq_ok_iff.mp h

lemma exists_addAll (h : ∀ e ∈ cs, ∃ s, Station.of e = .ok s) (stations : Table Station) :
    ∃ table, addAll stations cs = .ok table := by
  induction cs generalizing stations with
  | nil => exact ⟨stations, rfl⟩
  | cons e r ih =>
    obtain ⟨⟨s, hs⟩, hr⟩ := List.forall_mem_cons.mp h
    obtain ⟨table, ht⟩ := ih hr (stations.insert s.venue.exchange.name s)
    exact ⟨table, bind_eq_ok_iff.mpr ⟨s, hs, ht⟩⟩

lemma exists_addAll_of_valid (h : c.validate = .ok ()) :
    ∃ table, addAll [] c.enabled = .ok table :=
  exists_addAll (fun e he => Station.exists_of_validate (valid_of_enabled h e he)) []

lemma new?_eq_none_iff {capacity : Nat} : Bus.new? capacity = none ↔ capacity = 0 := by
  rw [Bus.new?]
  split <;> simp_all

lemma start_of_invalid {cause : ConfigError} (h : c.validate = .error cause) :
    start c = .error (.config cause) := by
  rw [start, h]
  rfl

lemma start_of_no_room (h : c.validate = .ok ()) (hb : c.global.eventBufferSize = 0) :
    start c = .error .noRoom := by
  rw [start, h, new?_eq_none_iff.mpr hb]
  rfl

lemma exists_start (h : c.validate = .ok ()) (hb : c.global.eventBufferSize ≠ 0) :
    ∃ g, start c = .ok g := by
  obtain ⟨bus, hbus⟩ := Option.ne_none_iff_exists'.mp (mt new?_eq_none_iff.mp hb)
  obtain ⟨table, htable⟩ := exists_addAll_of_valid h
  refine ⟨⟨c.global, bus, table⟩, ?_⟩
  rw [start, h, hbus, htable]
  rfl

/-- The settings are refused only where they are checked, and for the reason found there. All that is
accepted starts, unless it leaves no room for events: that is not checked, and the start breaks
off. -/
theorem started_iff_valid_with_room (c : GatewayConfig) :
    ((∃ g, start c = .ok g) ↔ c.validate = .ok () ∧ c.global.eventBufferSize ≠ 0) ∧
      (start c = .error .noRoom ↔ c.validate = .ok () ∧ c.global.eventBufferSize = 0) ∧
      ∀ cause, start c = .error (.config cause) ↔ c.validate = .error cause := by
  cases hv : c.validate with
  | error cause =>
    have hs := start_of_invalid hv
    simp [hs]
  | ok =>
    by_cases hb : c.global.eventBufferSize = 0
    · have hs := start_of_no_room hv hb
      simp [hs, hb]
    · obtain ⟨g, hs⟩ := exists_start hv hb
      simp [hs, hb]

theorem valid_settings_break_off_without_room :
    let exchange : ExchangeConfig := ⟨"kucoin", "KuCoin", true, "http://[::]", "ws://[::]", [], none,
      [⟨"BTC", "USDT", .spot, "BTC-USDT"⟩], [.book], {}⟩
    let c : GatewayConfig := ⟨[exchange], { eventBufferSize := 0 }⟩
    c.validate = .ok () ∧ start c = .error .noRoom ∧ ¬ ∃ g, start c = .ok g := by
  intro exchange c
  have hvalid : c.validate = .ok () := by decide +kernel
  have hstart : start c = .error .noRoom := start_of_no_room hvalid rfl
  refine ⟨hvalid, hstart, fun ⟨g, hg⟩ => ?_⟩
  cases hstart.symm.trans hg

end MarketFeed.Gateway
