import PartSourcing.Config.Settings
import PartSourcing.Proofs.Toml.Decoding

/-!
# Saving a configuration and reading it again

Every section and every field of a configuration may be left out of its file.  **A configuration
that was read can be saved, and what was saved is read as the same configuration**
(`Settings.reread`).  Nothing is asked of the file that was read first, and of the format only that
it reads the one value that is written as it was written.

Two things could stand in the way.  A time is kept as an unsigned number of 64 bits, which is more
than a file can show, but none that was read from a file is so great (`Settings.ensures`).  And what
has no value is left out, and is given its usual value when it is read; but only what usually has no
value can be without one, so that each decoder restores what its record was written as
(`Settings.restores`).
-/

namespace PartSourcing

open PartSourcing.Json PartSourcing.Json.Fields

/-! ## What is saved is restored -/

section Sections

variable {ns : List (String × Json)} {name : String}

theorem Secret.restores (s : Secret) : Secret.decoder.Restores s.toJson s where
  notNull := by simp [Secret.toJson]
  reads d v hshows := by
    rw [Secret.decoder, (Decoder.restores_string s.text).reads d v hshows]
    rfl

theorem restores_secretField {o : Option Secret}
    (hj : ns.lookup name = some (Json.ofOption Secret.toJson o)) :
    (secretField name).Restores ns o := restores_nullable Secret.restores hj

theorem restores_textField {s missing : String} (hj : ns.lookup name = some (.str s)) :
    (textField name missing).Restores ns s := restores_orElse (Decoder.restores_string s) hj

theorem restores_countField {n missing : UInt32} (hj : ns.lookup name = some (.nat n.toNat)) :
    (orElse name Decoder.uint32 missing).Restores ns n :=
  restores_orElse (Decoder.restores_uint32 n) hj

theorem restores_timeField {n missing : UInt64} (hj : ns.lookup name = some (.nat n.toNat)) :
    (orElse name Decoder.uint64 missing).Restores ns n :=
  restores_orElse (Decoder.restores_uint64 n) hj

theorem restores_numberField {x missing : Float} (hj : ns.lookup name = some (.real x)) :
    (orElse name Decoder.float missing).Restores ns x :=
  restores_orElse (Decoder.restores_float x) hj

theorem DigiKeySection.restores (s : DigiKeySection) :
    DigiKeySection.decoder.Restores s.toJson s :=
  restores_record <| (restores_secretField rfl).bind <| (restores_secretField rfl).bind <|
    (restores_textField rfl).bind <| (restores_textField rfl).bind <| restores_pure s

theorem MouserSection.restores (s : MouserSection) : MouserSection.decoder.Restores s.toJson s :=
  restores_record <| (restores_secretField rfl).bind <| (restores_textField rfl).bind <|
    (restores_textField rfl).bind <| restores_pure s

theorem NexarSection.restores (s : NexarSection) : NexarSection.decoder.Restores s.toJson s :=
  restores_record <| (restores_secretField rfl).bind <| (restores_textField rfl).bind <|
    (restores_textField rfl).bind <| (restores_countField rfl).bind <| restores_pure s

theorem BrokerBinSection.restores (s : BrokerBinSection) :
    BrokerBinSection.decoder.Restores s.toJson s :=
  restores_record <| (restores_secretField rfl).bind <| (restores_textField rfl).bind <|
    (restores_textField rfl).bind <| restores_pure s

theorem EbaySection.restores (s : EbaySection) : EbaySection.decoder.Restores s.toJson s :=
  restores_record <| (restores_secretField rfl).bind <| (restores_textField rfl).bind <|
    (restores_textField rfl).bind <| (restores_textField rfl).bind <|
    (restores_countField rfl).bind <| restores_pure s

theorem FindchipsSection.restores (s : FindchipsSection) :
    FindchipsSection.decoder.Restores s.toJson s :=
  restores_record <| (restores_textField rfl).bind <| (restores_textField rfl).bind <|
    restores_pure s

/-- **A section that is absent stays absent**, and one that is there stays, even if nothing is set
in it. -/
theorem SourceSections.restores (s : SourceSections) :
    SourceSections.decoder.Restores s.toJson s :=
  restores_record <| (restores_nullable DigiKeySection.restores rfl).bind <|
    (restores_nullable MouserSection.restores rfl).bind <|
    (restores_nullable NexarSection.restores rfl).bind <|
    (restores_nullable BrokerBinSection.restores rfl).bind <|
    (restores_nullable EbaySection.restores rfl).bind <|
    (restores_nullable FindchipsSection.restores rfl).bind <| restores_pure s

theorem RetryPolicy.restores (p : RetryPolicy) : RetryPolicy.decoder.Restores p.toJson p :=
  restores_record <| (restores_countField rfl).bind <| (restores_timeField rfl).bind <|
    (restores_timeField rfl).bind <| (restores_numberField rfl).bind <| restores_pure p

theorem Weights.restores (w : Weights Float) : Weights.decoder.Restores w.toJson w :=
  restores_record <| (restores_numberField rfl).bind <| (restores_numberField rfl).bind <|
    (restores_numberField rfl).bind <| (restores_numberField rfl).bind <|
    (restores_numberField rfl).bind <| (restores_numberField rfl).bind <| restores_pure w

theorem PriceBands.restores (b : PriceBands Float) : PriceBands.decoder.Restores b.toJson b :=
  restores_record <| (restores_numberField rfl).bind <| (restores_numberField rfl).bind <|
    (restores_numberField rfl).bind <| (restores_numberField rfl).bind <| restores_pure b

theorem Credibility.restores (c : Credibility Float) : Credibility.decoder.Restores c.toJson c :=
  restores_record <| (restores_numberField rfl).bind <| (restores_numberField rfl).bind <|
    (restores_numberField rfl).bind <| (restores_numberField rfl).bind <| restores_pure c

theorem Scoring.restores (s : Scoring Float) : Scoring.decoder.Restores s.toJson s :=
  restores_record <| (restores_orElse (Weights.restores _) rfl).bind <|
    (restores_numberField rfl).bind <| (restores_numberField rfl).bind <|
    (restores_numberField rfl).bind <| (restores_numberField rfl).bind <|
    (restores_orElse (PriceBands.restores _) rfl).bind <|
    (restores_orElse (Credibility.restores _) rfl).bind <| restores_pure s

theorem Standing.restores (s : Standing) : Standing.decoder.Restores s.toJson s where
  notNull := by simp [Standing.toJson]
  reads d v hshows := by
    rw [Toml.eq_of_shows_str hshows, Standing.decoder, Decoder.name, Standing.ofName?_name]
    rfl

theorem EngineConfig.restores (c : EngineConfig) : EngineConfig.decoder.Restores c.toJson c :=
  restores_record <| (restores_timeField rfl).bind <| (restores_timeField rfl).bind <|
    (restores_orElse (RetryPolicy.restores _) rfl).bind <|
    (restores_orElse (Scoring.restores _) rfl).bind <|
    (restores_orElse (Decoder.restores_list Standing.restores _) rfl).bind <|
    (restores_countField rfl).bind <|
    (restores_orElse (Decoder.restores_list Decoder.restores_string _) rfl).bind <|
    (restores_nullable Decoder.restores_string rfl).bind <|
    (restores_orElse (SourceSections.restores _) rfl).bind <| restores_pure c

theorem MemorySettings.restores (m : MemorySettings) :
    MemorySettings.decoder.Restores m.toJson m :=
  restores_record <| (restores_nullable Decoder.restores_string rfl).bind <|
    (restores_countField rfl).bind <| restores_pure m

/-- The vendors come back in the order of their names. -/
theorem Reliability.restores {r : Reliability} (h : Ascending r.vendors) :
    Reliability.decoder.Restores r.toJson r :=
  restores_record <| (restores_numberField rfl).bind <|
    (restores_orElse (Decoder.restores_table Decoder.restores_float h) rfl).bind <|
    restores_pure r

/-- **Settings are restored from what they are saved as.** -/
theorem Settings.restores {s : Settings} (h : Ascending s.reliability.vendors) :
    Settings.decoder.Restores s.toJson s :=
  restores_record <| (restores_orElse (EngineConfig.restores _) rfl).bind <|
    (restores_orElse (MemorySettings.restores _) rfl).bind <|
    (restores_orElse (Reliability.restores h) rfl).bind <| restores_pure s

end Sections

/-! ## What is read can be saved -/

/-- Whether the times of a policy can be shown in a file. -/
structure RetryPolicy.Fits (p : RetryPolicy) : Prop where
  baseDelay : p.baseDelay.toNat ≤ Toml.maxInt
  maxDelay : p.maxDelay.toNat ≤ Toml.maxInt

/-- Whether the times of a configuration can be shown in a file. -/
structure EngineConfig.Fits (c : EngineConfig) : Prop where
  deadline : c.deadline.toNat ≤ Toml.maxInt
  callTimeout : c.callTimeout.toNat ≤ Toml.maxInt
  retry : c.retry.Fits

/-- Whether settings are such as a file can show: their times are small enough, and their vendors
are in the order in which they are read. -/
structure Settings.Fits (s : Settings) : Prop where
  engine : s.engine.Fits
  vendors : Ascending s.reliability.vendors

section Reading

open Toml (IsValue IsMember)

theorem RetryPolicy.ensures : RetryPolicy.decoder.Ensures RetryPolicy.Fits :=
  ensures_record <| ensures_any.bind fun _ _ =>
    (ensures_orElse Decoder.ensures_uint64 (by decide)).bind fun _ hbase =>
    (ensures_orElse Decoder.ensures_uint64 (by decide)).bind fun _ hmax =>
    ensures_any.bind fun _ _ => ensures_pure ⟨hbase, hmax⟩

theorem EngineConfig.ensures : EngineConfig.decoder.Ensures EngineConfig.Fits :=
  ensures_record <|
    (ensures_orElse Decoder.ensures_uint64 (by decide)).bind fun _ hdeadline =>
    (ensures_orElse Decoder.ensures_uint64 (by decide)).bind fun _ htimeout =>
    (ensures_orElse RetryPolicy.ensures ⟨by decide, by decide⟩).bind fun _ hretry =>
    ensures_any.bind fun _ _ => ensures_any.bind fun _ _ => ensures_any.bind fun _ _ =>
    ensures_any.bind fun _ _ => ensures_any.bind fun _ _ => ensures_any.bind fun _ _ =>
    ensures_pure ⟨hdeadline, htimeout, hretry⟩

theorem Reliability.ensures : Reliability.decoder.Ensures fun r => Ascending r.vendors :=
  ensures_record <| ensures_any.bind fun _ _ =>
    (ensures_orElse (Decoder.ensures_table _) Ascending.nil).bind fun _ hvendors =>
    ensures_pure hvendors

/-- **Settings that were read from a file fit into one.** -/
theorem Settings.ensures : Settings.decoder.Ensures Settings.Fits :=
  ensures_record <|
    (ensures_orElse EngineConfig.ensures ⟨by decide, by decide, by decide, by decide⟩).bind
      fun _ hengine => ensures_any.bind fun _ _ =>
    (ensures_orElse Reliability.ensures Ascending.nil).bind fun _ hvendors =>
    ensures_pure ⟨hengine, hvendors⟩

@[simp] theorem isMember_secret (o : Option Secret) : IsMember (.ofOption Secret.toJson o) := by
  have hvalue (s : Secret) : IsValue s.toJson := .str s.text
  exact Toml.isMember_ofOption hvalue o

theorem SourceSections.isValue_toJson (s : SourceSections) : IsValue s.toJson := by
  refine Toml.isValue_obj_iff.mpr ?_
  simp only [List.forall_mem_cons]
  refine ⟨?_, ?_, ?_, ?_, ?_, ?_, fun _ hm => absurd hm List.not_mem_nil⟩ <;>
    exact Toml.isMember_ofOption (fun s => Toml.isValue_obj_iff.mpr (by simp)) _

theorem RetryPolicy.Fits.isValue {p : RetryPolicy} (h : p.Fits) : IsValue p.toJson :=
  Toml.isValue_obj_iff.mpr (by simp [Toml.isMember_nat h.baseDelay, Toml.isMember_nat h.maxDelay])

theorem Scoring.isValue_toJson (s : Scoring Float) : IsValue s.toJson := by
  have hweights : IsValue s.weights.toJson := Toml.isValue_obj_iff.mpr (by simp)
  have hbands : IsValue s.bands.toJson := Toml.isValue_obj_iff.mpr (by simp)
  have hcredibility : IsValue s.credibility.toJson := Toml.isValue_obj_iff.mpr (by simp)
  exact Toml.isValue_obj_iff.mpr
    (by simp [hweights.isMember, hbands.isMember, hcredibility.isMember])

theorem EngineConfig.Fits.isValue {c : EngineConfig} (h : c.Fits) : IsValue c.toJson := by
  have hpriority : IsMember (.arr (c.sourcePriority.map Standing.toJson)) := by
    have hnames : c.sourcePriority.map Standing.toJson =
        (c.sourcePriority.map Standing.name).map .str := by
      rw [List.map_map]
      rfl
    exact hnames ▸ Toml.isMember_texts _
  exact Toml.isValue_obj_iff.mpr (by
    simp [Toml.isMember_nat h.deadline, Toml.isMember_nat h.callTimeout, h.retry.isValue.isMember,
      (Scoring.isValue_toJson _).isMember, hpriority, Toml.isMember_ofOption Toml.IsValue.str,
      (SourceSections.isValue_toJson _).isMember])

theorem MemorySettings.isValue_toJson (m : MemorySettings) : IsValue m.toJson :=
  Toml.isValue_obj_iff.mpr (by simp [Toml.isMember_ofOption Toml.IsValue.str])

theorem Reliability.isValue_toJson (r : Reliability) : IsValue r.toJson := by
  have hvendors : IsValue (.obj (r.vendors.map fun p => (p.1, .real p.2))) := by
    refine Toml.isValue_obj_iff.mpr fun m hm => ?_
    obtain ⟨p, -, rfl⟩ := List.mem_map.mp hm
    exact Toml.isMember_real p.2
  exact Toml.isValue_obj_iff.mpr (List.forall_mem_cons.mpr
    ⟨Toml.isMember_real r.usual, List.forall_mem_singleton.mpr hvendors.isMember⟩)

/-- **Settings that fit into a file can be saved.** -/
theorem Settings.Fits.exists_toText? {s : Settings} (h : s.Fits) :
    ∃ text, s.toText? = some text := by
  have hvalue : IsValue s.toJson := Toml.isValue_obj_iff.mpr (by
    simp [h.engine.isValue.isMember, (MemorySettings.isValue_toJson _).isMember,
      (Reliability.isValue_toJson _).isMember])
  exact Toml.exists_write? hvalue

end Reading

/-! ## The round trip -/

/-- What was read from a file can be shown in one. -/
theorem Settings.fits_of_ofText? {text : String} {s : Settings} (h : ofText? text = some s) :
    s.Fits := by
  obtain ⟨j, hj, hs⟩ := Option.bind_eq_some_iff.mp h
  have hdecoded : decoder Toml.dialect j = .ok s := by
    cases hd : decoder Toml.dialect j with
    | error e => rw [hd] at hs; exact nomatch hs
    | ok s' => rw [hd] at hs; exact congrArg _ (Option.some.inj hs)
  exact ensures _ j s (Toml.isValue_of_parse? hj).isMember hdecoded

/-- **A configuration that was read from a file can be saved, and what was saved is read as the same
configuration**, with the same verdict on it.  It is assumed that the format reads the one value
that is written here as it was written.  Doubles are compared bit by bit, so that not even one that
is no number needs to be left out. -/
theorem Settings.reread {text : String} {s : Settings} (hread : ofText? text = some s)
    (hformat : Toml.readsBack s.toJson = true) :
    ∃ saved, s.toText? = some saved ∧
      ∃ again, ofText? saved = some again ∧ again = s ∧ again.validate = s.validate := by
  have hfits := fits_of_ofText? hread
  obtain ⟨saved, hsaved⟩ := hfits.exists_toText?
  have hback : (Toml.parse? saved).any (fun v => Toml.shows v s.toJson) = true := by
    have hwrite : Toml.write? s.toJson = some saved := hsaved
    rwa [Toml.readsBack, hwrite] at hformat
  obtain ⟨v, hv, hshows⟩ := (Option.any_eq_true _ _).mp hback
  refine ⟨saved, hsaved, s, ?_, rfl, rfl⟩
  rw [ofText?, hv, Option.bind_some, (restores hfits.vendors).reads _ v hshows]
  rfl

/-- A file that leaves almost everything out. -/
def Settings.sparseText : String :=
  "[engine]\ndeadline_ms = 6000\nsource_priority = []\nplaceholder_vendors = []\n" ++
  "[engine.sources.findchips]\n[reliability.vendors]\nacme = 1\n"

/-- The settings in `sparseText`. -/
def Settings.sparse : Settings where
  engine :=
    { deadline := 6000, sourcePriority := [], placeholderVendors := [],
      sources := { findchips := some {} } }
  reliability := { vendors := [("acme", 1.0)] }

theorem Settings.sections_of_sparse : Toml.sections? [] sparse.toJson = some [
    "[engine]\ndeadline_ms = 6000\ncall_timeout_ms = 5000\nsource_priority = []\n" ++
      "history_lookback_days = 365\nplaceholder_vendors = []\n",
    "[engine.retry]\nmax_retries = 2\nbase_delay_ms = 200\nmax_delay_ms = 2000\n" ++
      "jitter_ratio = 0.25\n",
    "[engine.scoring]\nrecency_half_life_days = 30.0\nquantity_unknown_fallback = 0.5\n" ++
      "price_unknown_fallback = 0.5\nreliability_unknown_fallback = 0.5\n",
    "[engine.scoring.weights]\nrecency = 0.2\nquantity_fit = 0.2\nvendor_reliability = 0.15\n" ++
      "completeness = 0.1\nsource_credibility = 0.15\nprice = 0.2\n",
    "[engine.scoring.price_bands]\ntolerance = 0.1\nat_or_below = 1.0\n" ++
      "within_tolerance = 0.6\nbeyond = 0.2\n",
    "[engine.scoring.credibility]\nauthorized_distributor = 1.0\nmarketplace = 0.7\n" ++
      "broker = 0.5\nscrape = 0.3\n",
    "[engine.sources.findchips]\nbase_url = \"https://www.findchips.com\"\ncurrency = \"USD\"\n",
    "[memory]\nstale_after_days = 180\n",
    "[reliability]\ndefault = 0.5\n",
    "[reliability.vendors]\nacme = 1.0\n"] := by
  decide +kernel

theorem Settings.readsBack_of_sparse : Toml.readsBack sparse.toJson = true := by
  rw [Toml.readsBack, Toml.write?, sections_of_sparse, Option.map_some, Option.all_some,
    Toml.parse?_of_toList String.toList_intercalate (by decide +kernel)]
  simp only [List.map_cons, List.map_nil, String.toList_append, String.reduceToList]
  decide +kernel

/-- A section with nothing in it is kept, a number that is written as an integer comes back as a
number, and what was left out is left as it is. -/
theorem Settings.reread_of_sparse :
    ofText? sparseText = some sparse ∧ Toml.readsBack sparse.toJson = true ∧
      ∃ saved, sparse.toText? = some saved ∧
        ∃ again, ofText? saved = some again ∧ again = sparse ∧
          again.validate = sparse.validate := by
  have hread : ofText? sparseText = some sparse := by decide +kernel
  exact ⟨hread, readsBack_of_sparse, reread hread readsBack_of_sparse⟩

end PartSourcing
