/-
Every configuration that is loaded is one that the hub can run on.

A setting comes from the file, from the environment over it, or from the defaults under both. Each layer passes on only
what is of use: texts that are trimmed and not blank, numbers above zero, spans of a millisecond or more. So a
configuration is filled with such settings after the file (`filled_ofFile`) and still after the environment
(`Filled.override`). The environment may put the ping interval past the read deadline again, so the interval is clamped
after both: half of a span of a millisecond is still a span above zero.

  * `loaded_configuration_runnable`: whatever the file, as long as it is read, and whatever the environment.
-/
import ErrandHub.Config.Environment
import ErrandHub.Proofs.Text.Blank

namespace ErrandHub

/-- a text that is set to something: not blank, and no white space around it -/
structure Text.Neat (s : String) : Prop where
  visible : isBlank s = false
  trimmed : trim s = s

/-- a span that a setting may have: a millisecond at least, and at most the longest one -/
structure Duration.Settable (d : Duration) : Prop where
  some_time : 1000000 ≤ d.nanos
  bounded : d.nanos ≤ longest.nanos

/-! ## What a hub can run on -/

/-- limits and timing that a session can be held to -/
structure SessionSettings.Runnable (s : SessionSettings) : Prop where
  /-- there is time between two pings, -/
  pings : 0 < s.pingInterval.nanos
  /-- and it is shorter than the read deadline -/
  inTime : s.pingInterval.nanos < s.readDeadline.nanos
  /-- no session is given up before its first deadline -/
  patient : s.readDeadline.nanos ≤ s.livenessWindow.nanos
  writes : 0 < s.writeTimeout.nanos
  upgrades : 0 < s.handshakeTimeout.nanos
  outbox : 1 ≤ s.outboxCapacity
  message : 1 ≤ s.maxMessageBytes
  misses : 1 ≤ s.maxMissedPongs
  /-- the socket takes every message that is handled -/
  frames : s.maxMessageBytes ≤ s.socketFrameLimit

namespace Config

/-- addresses, credentials and names that are set to something where they are set at all -/
structure Named (c : Config) : Prop where
  bind : Text.Neat c.server.bind
  adminBind : ∀ a, c.server.adminBind = some a → Text.Neat a
  metricsBind : ∀ a, c.server.metricsBind = some a → Text.Neat a
  secret : ∀ s, c.server.verifier.secret = some s → Text.Neat s.exposed
  service : ∀ s, c.server.verifier.service = some s → Text.Neat s.exposed
  database : ∀ url, c.persistence.databaseUrl = some url → Text.Neat url
  staff : ∀ who ∈ c.notify.staff, Text.Neat who.name

/-- a configuration that a hub can run on -/
structure Runnable (c : Config) : Prop where
  session : c.session.Runnable
  commands : 1 ≤ c.commandQueueCapacity
  named : c.Named

end Config

/-! ## What a setting is made of -/

theorem Text.neat_of_trimmed? {s t : String} (h : trimmed? s = some t) : Neat t := by
  obtain ⟨something, rfl⟩ := trimmed?_eq_some_iff.1 h
  refine ⟨?_, trim_trim s⟩
  rw [← Bool.not_eq_true, isBlank_iff, trim_trim]
  exact something

theorem Duration.settable_ofMillis {n : UInt64} (positive : n ≠ 0) : (ofMillis n).Settable := by
  have above : n.toNat ≠ 0 := fun zero => positive (UInt64.toNat_inj.1 zero)
  have below : n.toNat < 2 ^ 64 := n.toNat_lt
  refine ⟨?_, ?_⟩
  · simp only [ofMillis]
    omega
  · simp only [ofMillis, longest, UInt64.size]
    omega

namespace Config

section Layers

variable {α : Type} {p : α → Prop}

/-- a setting with a default is of use if what is given is and the default is -/
theorem getD_of_use {given : Option α} {otherwise : α} (h : ∀ a, given = some a → p a) (h' : p otherwise) :
    p (given.getD otherwise) := by
  cases given with
  | none => exact h'
  | some a => exact h a rfl

/-- an optional setting is of use if it is in both layers -/
theorem or_of_use {upper lower : Option α} (h : ∀ a, upper = some a → p a) (h' : ∀ a, lower = some a → p a) :
    ∀ a, upper.or lower = some a → p a := by
  cases upper with
  | none => exact h'
  | some b => exact h

end Layers

theorem neat_of_filled {s : Option String} {t : String} (h : filled s = some t) : Text.Neat t := by
  obtain ⟨raw, -, trimmed⟩ := Option.bind_eq_some_iff.1 h
  exact Text.neat_of_trimmed? trimmed

theorem ne_zero_of_positive {n : Option UInt64} {m : UInt64} (h : positive n = some m) : m ≠ 0 := by
  simpa using (Option.filter_eq_some_iff.1 h).2

theorem settable_of_span {n : Option UInt64} {d : Duration} (h : span n = some d) : d.Settable := by
  obtain ⟨m, hm, rfl⟩ := Option.map_eq_some_iff.1 h
  exact Duration.settable_ofMillis (ne_zero_of_positive hm)

namespace Environment

variable {α : Type} {env : Environment} {name : String}

theorem value?_eq_some {read : String → Option α} {a : α} (h : env.value? name read = some a) :
    ∃ t, Text.Neat t ∧ read t = some a := by
  obtain ⟨t, ht, hread⟩ := Option.bind_eq_some_iff.1 h
  obtain ⟨raw, -, trimmed⟩ := Option.bind_eq_some_iff.1 ht
  exact ⟨t, Text.neat_of_trimmed? trimmed, hread⟩

theorem neat_of_value? {t : String} (h : env.value? name some = some t) : Text.Neat t := by
  obtain ⟨t', neat, same⟩ := value?_eq_some h
  cases same
  exact neat

theorem neat_of_secret {s : Secret} (h : env.value? name (fun t => some ⟨t⟩) = some s) : Text.Neat s.exposed := by
  obtain ⟨t, neat, same⟩ := value?_eq_some h
  cases same
  exact neat

theorem ne_zero_of_word? {s : String} {n : UInt64} (h : word? s = some n) : n ≠ 0 := by
  obtain ⟨m, hm, fits⟩ := Option.bind_eq_some_iff.1 h
  have positive : 0 < m := by simpa using (Option.filter_eq_some_iff.1 hm).2
  rintro rfl
  rw [Word.ofNat?_eq_some_iff.1 fits] at positive
  exact absurd positive (by decide)

theorem ne_zero_of_value? {n : UInt64} (h : env.value? name word? = some n) : n ≠ 0 := by
  obtain ⟨t, -, read⟩ := value?_eq_some h
  exact ne_zero_of_word? read

theorem settable_of_value? {d : Duration} (h : (env.value? name word?).map .ofMillis = some d) : d.Settable := by
  obtain ⟨n, hn, rfl⟩ := Option.map_eq_some_iff.1 h
  exact Duration.settable_ofMillis (ne_zero_of_value? hn)

end Environment
end Config

/-! ## Layer by layer -/

/-- limits and timing that are all filled in with something of use, before the ping interval is clamped -/
structure SessionSettings.Filled (s : SessionSettings) : Prop where
  ping : s.pingInterval.Settable
  read : s.readDeadline.Settable
  write : s.writeTimeout.Settable
  upgrade : s.handshakeTimeout.Settable
  outbox : s.outboxCapacity ≠ 0
  message : s.maxMessageBytes ≠ 0
  misses : s.maxMissedPongs ≠ 0

namespace Config

/-- a configuration that is filled in with settings of use -/
structure Filled (c : Config) : Prop where
  session : c.session.Filled
  commands : c.commandQueueCapacity ≠ 0
  named : c.Named

/-- what is not of use in the file is replaced by a default, and every default is of use -/
theorem filled_ofFile (f : File) : (ofFile f).Filled where
  session :=
    { ping := getD_of_use (fun _ => settable_of_span) ⟨by decide, by decide⟩
      read := getD_of_use (fun _ => settable_of_span) ⟨by decide, by decide⟩
      write := getD_of_use (fun _ => settable_of_span) ⟨by decide, by decide⟩
      upgrade := getD_of_use (fun _ => settable_of_span) ⟨by decide, by decide⟩
      outbox := getD_of_use (fun _ => ne_zero_of_positive) (by decide)
      message := getD_of_use (fun _ => ne_zero_of_positive) (by decide)
      misses := getD_of_use (p := fun n => n ≠ 0) (fun _ hn => by simpa using (Option.filter_eq_some_iff.1 hn).2)
        (by decide) }
  commands := getD_of_use (fun _ => ne_zero_of_positive) (by decide)
  named :=
    { bind := getD_of_use (fun _ => neat_of_filled) ⟨by decide, by decide⟩
      adminBind := fun _ => neat_of_filled
      metricsBind := fun _ => neat_of_filled
      secret := by
        intro s hs
        obtain ⟨t, ht, rfl⟩ := Option.map_eq_some_iff.1 hs
        exact neat_of_filled ht
      service := by
        intro s hs
        obtain ⟨t, ht, rfl⟩ := Option.map_eq_some_iff.1 hs
        exact neat_of_filled ht
      database := fun _ => neat_of_filled
      staff := by
        intro who hwho
        obtain ⟨s, -, hs⟩ := List.mem_filterMap.1 hwho
        obtain ⟨t, trimmed, rfl⟩ := Option.map_eq_some_iff.1 hs
        exact Text.neat_of_trimmed? trimmed }

/-- a variable of no use leaves a setting as it is -/
theorem Filled.override {c : Config} (h : c.Filled) (env : Environment) : (c.override env).Filled where
  session :=
    { ping := getD_of_use (fun _ => Environment.settable_of_value?) h.session.ping
      read := getD_of_use (fun _ => Environment.settable_of_value?) h.session.read
      write := h.session.write
      upgrade := getD_of_use (fun _ => Environment.settable_of_value?) h.session.upgrade
      outbox := getD_of_use (fun _ => Environment.ne_zero_of_value?) h.session.outbox
      message := getD_of_use (fun _ => Environment.ne_zero_of_value?) h.session.message
      misses := h.session.misses }
  commands := h.commands
  named :=
    { bind := getD_of_use (fun _ => Environment.neat_of_value?) h.named.bind
      adminBind := or_of_use (fun _ => Environment.neat_of_value?) h.named.adminBind
      metricsBind := or_of_use (fun _ => Environment.neat_of_value?) h.named.metricsBind
      secret := or_of_use (fun _ => Environment.neat_of_secret) h.named.secret
      service := or_of_use (fun _ => Environment.neat_of_secret) h.named.service
      database := or_of_use (fun _ => Environment.neat_of_value?) h.named.database
      staff := h.named.staff }

end Config

/-! ## The clamp -/

namespace SessionSettings

variable {s : SessionSettings}

/-- a session that may miss a deadline at all is not given up before the first one -/
theorem readDeadline_le_livenessWindow (h : s.readDeadline.Settable) :
    s.readDeadline.nanos ≤ s.livenessWindow.nanos := by
  have bounded := h.bounded
  have once : s.readDeadline.nanos * 1 ≤ s.readDeadline.nanos * s.patience :=
    Nat.mul_le_mul_left _ (Nat.le_max_left 1 _)
  rw [livenessWindow, Duration.times]
  simp only
  omega

/-- the limit of a frame is twice that of a message, or the greatest there is -/
theorem maxMessageBytes_le_socketFrameLimit (s : SessionSettings) : s.maxMessageBytes ≤ s.socketFrameLimit := by
  have below : s.maxMessageBytes.toNat < UInt64.size := s.maxMessageBytes.toNat_lt
  rw [UInt64.le_iff_toNat_le, socketFrameLimit, UInt64.toNat_ofNat_of_lt' (by omega)]
  omega

theorem Filled.runnable_with (h : s.Filled) {ping : Duration} (some_time : 0 < ping.nanos)
    (inTime : ping.nanos < s.readDeadline.nanos) : Runnable { s with pingInterval := ping } where
  pings := some_time
  inTime := inTime
  patient := readDeadline_le_livenessWindow h.read
  writes := Nat.lt_of_lt_of_le (by decide) h.write.some_time
  upgrades := Nat.lt_of_lt_of_le (by decide) h.upgrade.some_time
  outbox := by grind [h.outbox]
  message := by grind [h.message]
  misses := by grind [h.misses]
  frames := maxMessageBytes_le_socketFrameLimit _

/-- the clamp mends the ping interval, and changes nothing else -/
theorem Filled.runnable (h : s.Filled) : s.clamped.Runnable := by
  have ping := h.ping.some_time
  have read := h.read.some_time
  unfold clamped
  split_ifs with late
  · have half : s.readDeadline.half.nanos = s.readDeadline.nanos / 2 := rfl
    exact h.runnable_with (by omega) (by omega)
  · rw [pingsTooLate, decide_eq_true_eq] at late
    have some_time : 0 < s.pingInterval.nanos := by omega
    exact h.runnable_with some_time (by omega)

end SessionSettings

namespace Config

theorem Filled.runnable {c : Config} (h : c.Filled) : Runnable { c with session := c.session.clamped } where
  session := h.session.runnable
  commands := by grind [h.commands]
  named := { h.named with }

/-- **Every loaded configuration is one that a hub can run on.** Whatever is found in place of the file, if it is read, the
configuration is loaded, whatever the environment. Then the time between two pings is above zero and below the read
deadline, which is no longer than the silence after which a session is given up; writes and upgrades have some time;
the outbox, the queue of the registry, the size of a message and the deadlines that may be missed are one at least; the
socket takes every message of that size; and the addresses, secrets, tokens, database and recipients that are set are
neither blank nor have white space around them. What is not read is not loaded either, for the same reason. -/
theorem loaded_configuration_runnable (source : Source) (env : Environment) :
    (∀ f, File.read source = .ok f → ∃ c, load source env = .ok c ∧ c.Runnable) ∧
    ∀ e, File.read source = .error e → load source env = .error e := by
  refine ⟨fun f hf => ?_, fun e he => by simp only [load, unclamped, he]⟩
  exact ⟨_, by simp only [load, unclamped, hf], ((filled_ofFile f).override env).runnable⟩

/-- a file with a deadline after the ping, which the environment puts before it again, down to a millisecond -/
theorem loaded_configuration_runnable_in_a_millisecond :
    let source := Source.file (Utf8.bytes "[session]\nping_interval_ms = 30\nread_deadline_ms = 40\noutbox_capacity = 0\n")
    let f : File := { pingInterval := some 30, readDeadline := some 40, outboxCapacity := some 0 }
    let env : Environment := fun name => if name = "ERRAND_HUB_READ_DEADLINE_MS" then some " 1 " else none
    File.read source = .ok f ∧ (∃ c, load source env = .ok c ∧ c.Runnable ∧ c.session.pingInterval.nanos = 500000) ∧
      File.read .unreadable = .error .unreadable ∧ load .unreadable env = .error .unreadable := by
  intro source f env
  have read : File.read source = .ok f := by decide +kernel
  obtain ⟨c, loaded, runnable⟩ := (loaded_configuration_runnable source env).1 f read
  refine ⟨read, ⟨c, loaded, runnable, ?_⟩, rfl, (loaded_configuration_runnable .unreadable env).2 _ rfl⟩
  simp only [load, unclamped, read] at loaded
  cases loaded
  decide +kernel

end Config
end ErrandHub
