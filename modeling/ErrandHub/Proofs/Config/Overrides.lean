/-
What one variable of the environment changes.

Each variable that is looked at names one setting of a configuration. `Variable.get` reads that setting and `Variable.put`
replaces it, with the laws of an entry in a table. What a value says of the setting is told by `Variable.Says`, apart from
how it is read: any text that is not blank, a number above zero that is spelled in plain digits, or one of the words for
yes and no. The clamp comes after the variables, and touches the ping interval alone.

- `says_iff`: a value is read exactly as what it says.
- `get_override`: a setting is what its variable says, or else what it was.
- `override_eq_put`: environments that differ in one variable override to configurations that differ in one setting.
- `clamped_put`: the clamp leaves every other setting as it is, and depends on the ping interval and the read deadline only.
- `overrides_independent`: what loaded configurations differ in when environments differ in one variable.
-/
import ErrandHub.Proofs.Config.Runnable

namespace ErrandHub

/-- a ping interval inside a read deadline: as it is asked for if it is shorter, and else half of the deadline -/
def Duration.within (asked deadline : Duration) : Duration :=
  if deadline.nanos ≤ asked.nanos then deadline.half else asked

namespace Config

/-! ## What a value spells -/

namespace Environment

/-- a text spells a number above zero: its decimal digits, after a plus sign or none -/
def SpellsWord (s : String) (n : UInt64) : Prop :=
  n ≠ 0 ∧ ∃ sign ds, (sign = [] ∨ sign = ['+']) ∧ ds ≠ [] ∧ (∀ d ∈ ds, d < 10) ∧
    s.toList = sign ++ ds.map Nat.digitChar ∧ Text.ofDigits 10 ds = n.toNat

/-- a text is a word for yes or no, capitals or not -/
def SpellsFlag (s : String) (b : Bool) : Prop :=
  Text.lower s ∈ if b then ["1", "true", "yes", "on"] else ["0", "false", "no", "off"]

/-- a number above zero that a word holds is read from its digits -/
theorem ofDecimal_eq_some_iff {cs : List Char} {n : UInt64} :
    ((Text.decimal? cs).filter fun m => 0 < m).bind Word.ofNat? = some n ↔
      n ≠ 0 ∧ ∃ ds, ds ≠ [] ∧ (∀ d ∈ ds, d < 10) ∧ cs = ds.map Nat.digitChar ∧ Text.ofDigits 10 ds = n.toNat := by
  have hpositive : 0 < n.toNat ↔ n ≠ 0 :=
    Nat.pos_iff_ne_zero.trans (not_congr ⟨fun h => UInt64.toNat_inj.1 h, fun h => h ▸ rfl⟩)
  rw [← Text.decimal?_eq_some_iff]
  simp only [Option.bind_eq_some_iff, Option.filter_eq_some_iff, Word.ofNat?_eq_some_iff, decide_eq_true_eq]
  constructor
  · rintro ⟨m, ⟨hm, habove⟩, rfl⟩
    exact ⟨hpositive.1 habove, hm⟩
  · rintro ⟨hne, hm⟩
    exact ⟨n.toNat, ⟨hm, hpositive.2 hne⟩, rfl⟩

theorem digitChar_ne_plus {d : Nat} (small : d < 10) : d.digitChar ≠ '+' := by
  interval_cases d <;> decide

theorem word?_eq_some_iff {s : String} {n : UInt64} : word? s = some n ↔ SpellsWord s n := by
  simp only [word?, ofDecimal_eq_some_iff]
  rw [SpellsWord, and_congr_right_iff]
  intro _
  constructor
  · rintro ⟨ds, something, small, hdigits, value⟩
    split at hdigits
    · rename_i rest hsigned
      exact ⟨['+'], ds, .inr rfl, something, small, hsigned.trans (congrArg (List.cons '+') hdigits), value⟩
    · exact ⟨[], ds, .inl rfl, something, small, hdigits, value⟩
  · rintro ⟨sign, ds, hsign, something, small, hs, value⟩
    refine ⟨ds, something, small, ?_, value⟩
    rcases hsign with rfl | rfl
    · obtain ⟨d, rest, rfl⟩ := List.exists_cons_of_ne_nil something
      split
      · rename_i rest' hsigned
        rw [hsigned] at hs
        exact absurd (List.cons.inj hs).1.symm (digitChar_ne_plus (small d List.mem_cons_self))
      · exact hs
    · rw [hs]
      rfl

theorem bool?_eq_some_iff {s : String} {b : Bool} : bool? s = some b ↔ SpellsFlag s b := by
  have hknown : ∀ t ∈ words.map Prod.fst, words.lookup t = some b ↔
      t ∈ if b then ["1", "true", "yes", "on"] else ["0", "false", "no", "off"] := by
    cases b <;> decide
  have hwords : ∀ t ∈ (if b then ["1", "true", "yes", "on"] else ["0", "false", "no", "off"]),
      t ∈ words.map Prod.fst := by
    cases b <;> decide
  constructor
  · intro h
    obtain ⟨before, after, hsplit, -⟩ := List.lookup_eq_some_iff.1 h
    refine (hknown _ ?_).1 h
    rw [hsplit]
    simp
  · intro h
    exact (hknown _ (hwords _ h)).2 h

end Environment

/-! ## Variables and the settings that they name -/

/-- the variables of the environment that are looked at -/
inductive Variable where
  | bind
  | adminBind
  | metricsBind
  | secret
  | service
  | outboxCapacity
  | pingInterval
  | readDeadline
  | maxMessageBytes
  | handshakeTimeout
  | persistence
  | databaseUrl
  | notify
  deriving DecidableEq, Repr

namespace Variable

def all : List Variable :=
  [.bind, .adminBind, .metricsBind, .secret, .service, .outboxCapacity, .pingInterval, .readDeadline, .maxMessageBytes,
    .handshakeTimeout, .persistence, .databaseUrl, .notify]

theorem mem_all (x : Variable) : x ∈ all := by cases x <;> decide

def name : Variable → String
  | .bind => "ERRAND_HUB_BIND"
  | .adminBind => "ERRAND_HUB_ADMIN_BIND"
  | .metricsBind => "ERRAND_HUB_METRICS_BIND"
  | .secret => "ERRAND_HUB_AUTH_HMAC_SECRET"
  | .service => "ERRAND_HUB_SERVICE_TOKEN"
  | .outboxCapacity => "ERRAND_HUB_OUTBOX_CAPACITY"
  | .pingInterval => "ERRAND_HUB_PING_INTERVAL_MS"
  | .readDeadline => "ERRAND_HUB_READ_DEADLINE_MS"
  | .maxMessageBytes => "ERRAND_HUB_MAX_MESSAGE_BYTES"
  | .handshakeTimeout => "ERRAND_HUB_HANDSHAKE_TIMEOUT_MS"
  | .persistence => "ERRAND_HUB_PERSISTENCE_ENABLED"
  | .databaseUrl => "ERRAND_HUB_DATABASE_URL"
  | .notify => "ERRAND_HUB_NOTIFY_ENABLED"

theorem names_eq : Environment.names = all.map name := rfl

theorem mem_names_iff {n : String} : n ∈ Environment.names ↔ ∃ x : Variable, x.name = n := by
  rw [names_eq, List.mem_map]
  exact ⟨fun ⟨x, _, h⟩ => ⟨x, h⟩, fun ⟨x, h⟩ => ⟨x, mem_all x, h⟩⟩

theorem name_injective : Function.Injective name := by
  have hnodup : (all.map name).Nodup := by decide
  intro x y h
  exact List.inj_on_of_nodup_map hnodup (mem_all x) (mem_all y) h

inductive Kind where
  | text
  | optionalText
  | secret
  | count
  | span
  | flag
  deriving DecidableEq, Repr

abbrev Kind.Value : Kind → Type
  | .text => String
  | .optionalText => Option String
  | .secret => Option Secret
  | .count => UInt64
  | .span => Duration
  | .flag => Bool

/-- what the setting of a variable may be -/
abbrev kind : Variable → Kind
  | .bind => .text
  | .adminBind | .metricsBind | .databaseUrl => .optionalText
  | .secret | .service => .secret
  | .outboxCapacity | .maxMessageBytes => .count
  | .pingInterval | .readDeadline | .handshakeTimeout => .span
  | .persistence | .notify => .flag

/-- the setting that a variable names -/
def get : (x : Variable) → Config → x.kind.Value
  | .bind, c => c.server.bind
  | .adminBind, c => c.server.adminBind
  | .metricsBind, c => c.server.metricsBind
  | .secret, c => c.server.verifier.secret
  | .service, c => c.server.verifier.service
  | .outboxCapacity, c => c.session.outboxCapacity
  | .pingInterval, c => c.session.pingInterval
  | .readDeadline, c => c.session.readDeadline
  | .maxMessageBytes, c => c.session.maxMessageBytes
  | .handshakeTimeout, c => c.session.handshakeTimeout
  | .persistence, c => c.persistence.enabled
  | .databaseUrl, c => c.persistence.databaseUrl
  | .notify, c => c.notify.enabled

/-- a configuration in which the setting that a variable names is replaced, and no other -/
def put : (x : Variable) → x.kind.Value → Config → Config
  | .bind, v, c => { c with server := { c.server with bind := v } }
  | .adminBind, v, c => { c with server := { c.server with adminBind := v } }
  | .metricsBind, v, c => { c with server := { c.server with metricsBind := v } }
  | .secret, v, c => { c with server := { c.server with verifier := { c.server.verifier with secret := v } } }
  | .service, v, c => { c with server := { c.server with verifier := { c.server.verifier with service := v } } }
  | .outboxCapacity, v, c => { c with session := { c.session with outboxCapacity := v } }
  | .pingInterval, v, c => { c with session := { c.session with pingInterval := v } }
  | .readDeadline, v, c => { c with session := { c.session with readDeadline := v } }
  | .maxMessageBytes, v, c => { c with session := { c.session with maxMessageBytes := v } }
  | .handshakeTimeout, v, c => { c with session := { c.session with handshakeTimeout := v } }
  | .persistence, v, c => { c with persistence := { c.persistence with enabled := v } }
  | .databaseUrl, v, c => { c with persistence := { c.persistence with databaseUrl := v } }
  | .notify, v, c => { c with notify := { c.notify with enabled := v } }

variable {x : Variable}

@[simp] theorem get_put (v : x.kind.Value) (c : Config) : x.get (x.put v c) = v := by cases x <;> rfl

@[simp] theorem put_get (c : Config) : x.put (x.get c) c = c := by cases x <;> rfl

@[simp] theorem put_put (v w : x.kind.Value) (c : Config) : x.put v (x.put w c) = x.put v c := by cases x <;> rfl

theorem get_put_of_ne {y : Variable} (h : y ≠ x) (v : x.kind.Value) (c : Config) : y.get (x.put v c) = y.get c := by
  cases x <;> cases y <;> first | rfl | exact absurd rfl h

theorem put_comm {y : Variable} (h : y ≠ x) (v : x.kind.Value) (w : y.kind.Value) (c : Config) :
    y.put w (x.put v c) = x.put v (y.put w c) := by
  cases x <;> cases y <;> first | rfl | exact absurd rfl h

end Variable

/-- the settings that no variable names -/
def unnamed (c : Config) : UInt32 × Duration × UInt64 × List Identity :=
  (c.session.maxMissedPongs, c.session.writeTimeout, c.commandQueueCapacity, c.notify.staff)

@[simp] theorem unnamed_put (x : Variable) (v : x.kind.Value) (c : Config) : (x.put v c).unnamed = c.unnamed := by
  cases x <;> rfl

@[simp] theorem unnamed_override (env : Environment) (c : Config) : (c.override env).unnamed = c.unnamed := rfl

/-- a configuration is made of the settings that variables name and of those that none does -/
theorem eq_of_get {c d : Config} (hunnamed : c.unnamed = d.unnamed) (h : ∀ x : Variable, x.get c = x.get d) : c = d := by
  obtain ⟨⟨_, _, _, ⟨_, _⟩⟩, ⟨_, _, _, _, _, _, _⟩, _, ⟨_, _⟩, ⟨_, _⟩⟩ := c
  obtain ⟨⟨_, _, _, ⟨_, _⟩⟩, ⟨_, _, _, _, _, _, _⟩, _, ⟨_, _⟩, ⟨_, _⟩⟩ := d
  cases hunnamed
  cases h .bind
  cases h .adminBind
  cases h .metricsBind
  cases h .secret
  cases h .service
  cases h .outboxCapacity
  cases h .pingInterval
  cases h .readDeadline
  cases h .maxMessageBytes
  cases h .handshakeTimeout
  cases h .persistence
  cases h .databaseUrl
  cases h .notify
  rfl

namespace Variable

variable {x : Variable}

/-! ## What a value says of a setting -/

/-- a text without white space around it says what a setting is to be -/
def Kind.Says : (k : Kind) → String → k.Value → Prop
  | .text, s, t => t = s
  | .optionalText, s, t => t = some s
  | .secret, s, t => t = some ⟨s⟩
  | .count, s, n => Environment.SpellsWord s n
  | .span, s, d => ∃ n, Environment.SpellsWord s n ∧ d = .ofMillis n
  | .flag, s, b => Environment.SpellsFlag s b

/-- a value of a variable is not blank and says, trimmed, what the setting is to be -/
def Says (x : Variable) (value : String) (v : x.kind.Value) : Prop :=
  Text.trim value ≠ "" ∧ x.kind.Says (Text.trim value) v

/-- what is read from a trimmed value -/
def Kind.read? : (k : Kind) → String → Option k.Value
  | .text, s => some s
  | .optionalText, s => some (some s)
  | .secret, s => some (some ⟨s⟩)
  | .count, s => Environment.word? s
  | .span, s => (Environment.word? s).map .ofMillis
  | .flag, s => Environment.bool? s

/-- what the environment says of the setting that a variable names, if its value is of use -/
def given (x : Variable) (env : Environment) : Option x.kind.Value := env.value? x.name x.kind.read?

theorem Kind.read?_eq_some_iff {k : Kind} {s : String} {v : k.Value} : k.read? s = some v ↔ k.Says s v := by
  cases k with
  | text => exact Option.some_inj.trans eq_comm
  | optionalText => exact Option.some_inj.trans eq_comm
  | secret => exact Option.some_inj.trans eq_comm
  | count => exact Environment.word?_eq_some_iff
  | span =>
    simp only [Kind.read?, Kind.Says, Option.map_eq_some_iff, Environment.word?_eq_some_iff, @eq_comm _ v]
  | flag => exact Environment.bool?_eq_some_iff

theorem says_iff {value : String} {v : x.kind.Value} :
    (Text.trimmed? value).bind x.kind.read? = some v ↔ x.Says value v := by
  simp only [Option.bind_eq_some_iff, Text.trimmed?_eq_some_iff, Kind.read?_eq_some_iff, Says]
  constructor
  · rintro ⟨t, ⟨hfilled, rfl⟩, hsaid⟩
    exact ⟨hfilled, hsaid⟩
  · rintro ⟨hfilled, hsaid⟩
    exact ⟨_, ⟨hfilled, rfl⟩, hsaid⟩

/-! ## Layers -/

variable {env env' : Environment}

theorem given_of_says {value : String} {v : x.kind.Value} (h : env x.name = some value) (hsaid : x.Says value v) :
    x.given env = some v := by
  rw [given, Environment.value?, h]
  exact says_iff.2 hsaid

theorem given_of_unusable {value : String} (h : env x.name = some value) (hnot : ∀ v, ¬x.Says value v) :
    x.given env = none := by
  rw [given, Environment.value?, h]
  exact Option.eq_none_iff_forall_ne_some.2 fun v hv => hnot v (says_iff.1 hv)

theorem given_of_absent (h : env x.name = none) : x.given env = none := by
  rw [given, Environment.value?, h]
  rfl

/-- a setting is what its variable says, or else what it was -/
theorem get_override (x : Variable) (env : Environment) (c : Config) :
    x.get (c.override env) = (x.given env).getD (x.get c) := by
  unfold given Environment.value?
  -- every variable is looked up and trimmed alike; they differ in what becomes of the trimmed value
  cases x
  all_goals
    simp only [get, override, Environment.value?, name]
    generalize (env _).bind Text.trimmed? = t
    cases t <;> rfl

theorem given_congr (h : env x.name = env' x.name) : x.given env = x.given env' := by
  rw [given, given, Environment.value?, Environment.value?, h]

/-- the environment is looked at under the names of variables alone -/
theorem override_congr (h : ∀ x : Variable, env x.name = env' x.name) (c : Config) : c.override env = c.override env' := by
  refine eq_of_get rfl fun x => ?_
  rw [get_override, get_override, given_congr (h x)]

/-- environments that differ in one variable override to configurations that differ in one setting -/
theorem override_eq_put (x : Variable) (h : ∀ y : Variable, y ≠ x → env y.name = env' y.name) (c : Config) :
    c.override env' = x.put (x.get (c.override env')) (c.override env) := by
  refine eq_of_get ?_ fun y => ?_
  · rw [unnamed_put, unnamed_override, unnamed_override]
  · by_cases hy : y = x
    · subst hy
      rw [get_put]
    · rw [get_put_of_ne hy, get_override, get_override, given_congr (h y hy)]

/-- two configurations differ at most in the setting that a variable names, and beside the read deadline in the ping
interval, which is inside it -/
structure DifferAt (x : Variable) (c d : Config) : Prop where
  /-- but for the read deadline, the setting is all that they differ in -/
  alone : x ≠ .readDeadline → d = x.put (x.get d) c
  /-- with the read deadline, the ping interval is what the same request comes to inside another deadline -/
  deadline : x = .readDeadline → ∃ asked : Duration, c.session.pingInterval = asked.within c.session.readDeadline ∧
    d = Variable.pingInterval.put (asked.within d.session.readDeadline)
      (Variable.readDeadline.put d.session.readDeadline c)

/-- a setting as it takes effect in a configuration: a ping interval inside the read deadline, any other as it is -/
def effective : (x : Variable) → x.kind.Value → Config → x.kind.Value
  | .pingInterval, asked, c => Duration.within asked c.session.readDeadline
  | _, v, _ => v

end Variable

/-! ## The clamp -/

/-- a configuration whose ping interval is inside the read deadline -/
def clamped (c : Config) : Config := { c with session := c.session.clamped }

theorem load_of_read {source : Source} {f : File} (hread : File.read source = .ok f) (env : Environment) :
    load source env = .ok ((ofFile f).override env).clamped := by
  simp only [load, unclamped, hread, clamped]

theorem clamped_eq_put (c : Config) :
    c.clamped = Variable.pingInterval.put (c.session.pingInterval.within c.session.readDeadline) c := by
  unfold clamped SessionSettings.clamped SessionSettings.pingsTooLate Duration.within
  simp only [decide_eq_true_eq]
  split_ifs <;> rfl

namespace Variable

variable {x : Variable}

theorem get_clamped_of_ne (h : x ≠ .pingInterval) (c : Config) : x.get c.clamped = x.get c := by
  rw [clamped_eq_put, get_put_of_ne h]

theorem readDeadline_clamped (c : Config) : c.clamped.session.readDeadline = c.session.readDeadline :=
  get_clamped_of_ne (x := .readDeadline) nofun c

theorem pingInterval_clamped (c : Config) :
    c.clamped.session.pingInterval = c.session.pingInterval.within c.session.readDeadline := by
  rw [clamped_eq_put]
  rfl

theorem effective_of_ne (h : x ≠ .pingInterval) (v : x.kind.Value) (c : Config) : x.effective v c = v := by
  cases x <;> first | rfl | exact absurd rfl h

/-- a setting takes effect in the clamped configuration -/
theorem get_clamped (x : Variable) (c : Config) : x.get c.clamped = x.effective (x.get c) c.clamped := by
  by_cases h : x = .pingInterval
  · subst h
    have hdeadline := readDeadline_clamped c
    simp only [effective, get, pingInterval_clamped, hdeadline]
  · rw [get_clamped_of_ne h, effective_of_ne h]

/-- the clamp leaves a setting as it is, and depends on no other than the ping interval and the read deadline -/
theorem clamped_put (hping : x ≠ .pingInterval) (hdeadline : x ≠ .readDeadline) (v : x.kind.Value) (c : Config) :
    (x.put v c).clamped = x.put v c.clamped := by
  have hp : (x.put v c).session.pingInterval = c.session.pingInterval :=
    get_put_of_ne (y := .pingInterval) hping.symm v c
  have hr : (x.put v c).session.readDeadline = c.session.readDeadline :=
    get_put_of_ne (y := .readDeadline) hdeadline.symm v c
  rw [clamped_eq_put, clamped_eq_put c, hp, hr, put_comm hping.symm]

/-- configurations that differ in one setting do so after the clamp, but for the ping interval -/
theorem differAt_clamped {c d : Config} (h : d = x.put (x.get d) c) : x.DifferAt c.clamped d.clamped := by
  refine ⟨fun hdeadline => ?_, ?_⟩
  · by_cases hping : x = .pingInterval
    · subst hping
      calc d.clamped
        _ = pingInterval.put (pingInterval.get d.clamped) d := by rw [clamped_eq_put, get_put]
        _ = pingInterval.put (pingInterval.get d.clamped) (pingInterval.put (pingInterval.get d) c) := by rw [← h]
        _ = pingInterval.put (pingInterval.get d.clamped) c.clamped := by rw [clamped_eq_put c, put_put, put_put]
    · calc d.clamped
        _ = (x.put (x.get d) c).clamped := by rw [← h]
        _ = x.put (x.get d.clamped) c.clamped := by rw [clamped_put hping hdeadline, get_clamped_of_ne hping]
  · -- both clamp the ping interval that was asked for, each to its own deadline
    rintro rfl
    have hasked : d.session.pingInterval = c.session.pingInterval := by
      rw [h]
      rfl
    refine ⟨c.session.pingInterval, ?_, ?_⟩
    · rw [pingInterval_clamped, readDeadline_clamped]
    · have hd : readDeadline.put d.session.readDeadline c = d := h.symm
      rw [readDeadline_clamped, clamped_eq_put c, put_comm (x := .pingInterval) (y := .readDeadline) nofun, put_put, hd,
        clamped_eq_put, hasked]

end Variable

/-! ## Loaded configurations -/

/-- **One variable changes one setting.** Let two environments differ in what they have under one name. What is not read is
not loaded under either. From a file that is read, whatever it says, both load a configuration. If no variable has the name,
it is the same one. If a variable has it, the two differ at most in the setting that the variable names, and beside the read
deadline in the ping interval, for which the same was asked in both. A value of no use (a blank one, or one that says nothing
of the setting) loads what the absence of the variable does; and a value of use comes to be the setting itself, where a ping
interval has to be inside the read deadline. -/
theorem overrides_independent (source : Source) (n : String) (env env' : Environment)
    (h : ∀ other ≠ n, env other = env' other) :
    (∀ e, File.read source = .error e → load source env = .error e ∧ load source env' = .error e) ∧
    ∀ f, File.read source = .ok f → ∃ c d, load source env = .ok c ∧ load source env' = .ok d ∧
      (n ∉ Environment.names → c = d) ∧
      ∀ x : Variable, x.name = n →
        x.DifferAt c d ∧
        (∀ value, env n = none → env' n = some value → (∀ v, ¬x.Says value v) → c = d) ∧
        ∀ value v, env' n = some value → x.Says value v → x.get d = x.effective v d := by
  refine ⟨fun e he => ?_, fun f hread => ?_⟩
  · have hunread (env : Environment) : load source env = .error e := (loaded_configuration_runnable source env).2 e he
    exact ⟨hunread env, hunread env'⟩
  refine ⟨_, _, load_of_read hread env, load_of_read hread env', fun hnone => ?_, ?_⟩
  · have hsame : ∀ x : Variable, env x.name = env' x.name := fun x =>
      h _ fun hx => hnone (Variable.mem_names_iff.2 ⟨x, hx⟩)
    rw [Variable.override_congr hsame]
  rintro x rfl
  have hput := x.override_eq_put (fun y hy => h _ (Variable.name_injective.ne hy)) (ofFile f)
  refine ⟨Variable.differAt_clamped hput, fun value habsent hvalue hnot => ?_, fun value v hvalue hsaid => ?_⟩
  · have hget : x.get ((ofFile f).override env') = x.get ((ofFile f).override env) := by
      rw [x.get_override env', x.get_override env, Variable.given_of_unusable hvalue hnot,
        Variable.given_of_absent habsent]
    rw [hput, hget, Variable.put_get]
  · rw [Variable.get_clamped, x.get_override, Variable.given_of_says hvalue hsaid, Option.getD_some]

/-- the environment shortens the read deadline below the ping interval of a file, says nothing of use of it, or names what
no variable does -/
theorem overrides_independent_of_deadline :
    let source := Source.file (Utf8.bytes "[session]\nping_interval_ms = 30\nread_deadline_ms = 40\n")
    let f : File := { pingInterval := some 30, readDeadline := some 40 }
    let deadline := "ERRAND_HUB_READ_DEADLINE_MS"
    let other := "ERRAND_HUB_WRITE_TIMEOUT_MS"
    let under (n value : String) : Environment := fun name => if name = n then some value else none
    File.read source = .ok f ∧
      (∃ c d, load source (fun _ => none) = .ok c ∧ load source (under deadline "\t+020 ") = .ok d ∧
        Variable.readDeadline.DifferAt c d ∧ d.session.readDeadline = .ofMillis 20 ∧
        d.session.pingInterval = .ofMillis 10) ∧
      load source (under deadline " 0 ") = load source (fun _ => none) ∧
      load source (under other "20") = load source (fun _ => none) ∧
      File.read .unreadable = .error .unreadable ∧ load .unreadable (under other "20") = .error .unreadable := by
  intro source f deadline other under
  have hread : File.read source = .ok f := by decide +kernel
  have hunder (n value : String) : ∀ name ≠ n, (fun _ => none : Environment) name = under n value name := by
    intro name hname
    exact (if_neg hname).symm
  have hsaid : Variable.readDeadline.Says "\t+020 " (.ofMillis 20) := Variable.says_iff.1 (by decide +kernel)
  have hzero : ∀ v, ¬Variable.readDeadline.Says " 0 " v := by
    intro v hv
    have hnone : (Text.trimmed? " 0 ").bind Variable.readDeadline.kind.read? = none := by decide +kernel
    cases hnone.symm.trans (Variable.says_iff.2 hv)
  refine ⟨hread, ?_, ?_, ?_, rfl, ?_⟩
  · obtain ⟨c, d, hc, hd, -, hvariable⟩ := (overrides_independent source deadline _ _ (hunder deadline "\t+020 ")).2 f hread
    obtain ⟨hdiffer, -, huse⟩ := hvariable .readDeadline rfl
    have hdeadline : d.session.readDeadline = .ofMillis 20 := huse _ _ (if_pos rfl) hsaid
    refine ⟨c, d, hc, hd, hdiffer, hdeadline, ?_⟩
    cases hd.symm.trans (load_of_read hread _)
    decide +kernel
  · obtain ⟨c, d, hc, hd, -, hvariable⟩ := (overrides_independent source deadline _ _ (hunder deadline " 0 ")).2 f hread
    obtain ⟨-, hnone, -⟩ := hvariable .readDeadline rfl
    rw [hc, hd, hnone _ rfl (if_pos rfl) hzero]
  · obtain ⟨c, d, hc, hd, hnobody, -⟩ := (overrides_independent source other _ _ (hunder other "20")).2 f hread
    rw [hc, hd, hnobody (by decide)]
  · exact ((overrides_independent .unreadable other _ _ (hunder other "20")).1 _ rfl).2

end Config
end ErrandHub
