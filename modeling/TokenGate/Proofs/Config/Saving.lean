import TokenGate.Config.Environment
import TokenGate.Config.Json
import TokenGate.Proofs.Json.Decoder
import TokenGate.Proofs.Net.Address
import TokenGate.Proofs.Time.Duration
/-!
Configurations that are saved and loaded again. All that a text or the environment can set comes
back as it was.
-/
namespace TokenGate.Config

open Json (Decoder)
open Json.Decoder (Sets keeps_of reads_bool reads_integer reads_list reads_spelled reads_string
  yields_record yields_true)

variable {c : Config} {d : Duration} {depth : Nat}

theorem toleranceDecoder_yields : toleranceDecoder.Yields Duration.Denoted := by
  refine yields_true.refine ?_
  intro s d _ h
  exact Duration.denoted_of_parse (mapError_eq_ok.1 h)

/-- The default is denoted by a text as well. -/
theorem defaultTolerance_denoted : defaultTolerance.Denoted := .seconds 5

theorem Auth.decoder_yields : Auth.decoder.Yields fun c => c.tolerance.Denoted := by
  apply yields_record
  · simp only [List.forall_mem_cons]
    refine ⟨?host, ?port, ?path, ?tolerance, List.forall_mem_nil _⟩
    case tolerance => exact keeps_of toleranceDecoder_yields fun _ _ ht _ => ht
    all_goals exact keeps_of yields_true fun _ _ _ hc => hc
  · exact defaultTolerance_denoted

theorem decoder_yields : decoder.Yields fun c => c.auth.tolerance.Denoted := by
  apply yields_record
  · simp only [List.forall_mem_cons]
    refine ⟨?http, ?websocket, ?auth, List.forall_mem_nil _⟩
    case auth => exact keeps_of Auth.decoder_yields fun _ _ ht _ => ht
    all_goals exact keeps_of yields_true fun _ _ _ hc => hc
  · exact defaultTolerance_denoted

theorem denoted_of_secondsOf? (h : secondsOf? s = some d) : d.Denoted := by
  obtain ⟨n, -, hn⟩ := Option.bind_eq_some_iff.1 h
  simp only [Duration.ofParts?] at hn
  split at hn
  · next hlt =>
    cases hn
    have hw : (UInt64.ofNat n).toNat = n := UInt64.toNat_ofNat_of_lt' hlt.1
    have hd : Duration.ofWord (.ofNat n) = ⟨n, 0, hlt.1, hlt.2⟩ := by
      simp only [Duration.ofWord, Duration.ofSeconds, hw]
    rw [← hd]
    exact .seconds _
  · cases hn

theorem denoted_overlayEnv (h : c.auth.tolerance.Denoted) (env : Environment) :
    (c.overlayEnv env).auth.tolerance.Denoted := by
  change (((env "QC_CLOCK_SKEW_SECS").bind secondsOf?).getD c.auth.tolerance).Denoted
  cases hs : (env "QC_CLOCK_SKEW_SECS").bind secondsOf? with
  | none => exact h
  | some d =>
    obtain ⟨s, -, hd⟩ := Option.bind_eq_some_iff.1 hs
    exact denoted_of_secondsOf? hd

theorem hostDecoder_reads (a : Net.IpAddr) : hostDecoder.Reads depth (.str a.text) a := by
  apply reads_spelled
  rw [a.parse?_text]

theorem portDecoder_reads (port : UInt16) :
    portDecoder.Reads depth (Json.ofInt port.toNat) port := by
  have hp := port.toNat_lt
  have hi : -0x8000_0000_0000_0000 ≤ (port.toNat : Int) ∧
      (port.toNat : Int) < 0x1_0000_0000_0000_0000 := by omega
  have hb : (0 : Int) ≤ port.toNat ∧ (port.toNat : Int) ≤ (Nat.pow 2 16 - 1 : Nat) := by
    have h16 : Nat.pow 2 16 = 65536 := rfl
    omega
  have hr : portDecoder.Reads depth (.num (.int port.toNat hi))
      (UInt16.ofNat (port.toNat : Int).toNat) :=
    ((reads_integer hi hb).map Int.toNat).map UInt16.ofNat
  rw [Json.ofInt_eq_num hi]
  rwa [Int.toNat_natCast, UInt16.ofNat_toNat] at hr

theorem limitDecoder_reads (limit : UInt64) :
    limitDecoder.Reads depth (Json.ofInt limit.toNat) limit := by
  have hl := limit.toNat_lt
  have hb : (0 : Int) ≤ limit.toNat ∧
      (limit.toNat : Int) ≤ 0x1_0000_0000_0000_0000 - 1 := by omega
  have hr : limitDecoder.Reads depth (.num (.int limit.toNat (Json.uint64_inRange limit)))
      (UInt64.ofNat (limit.toNat : Int).toNat) :=
    (reads_integer (Json.uint64_inRange limit) hb).map fun i => UInt64.ofNat i.toNat
  rw [Json.ofInt_eq_num (Json.uint64_inRange limit)]
  rwa [Int.toNat_natCast, UInt64.ofNat_toNat] at hr

theorem modules_reads (modules : List String) :
    (Decoder.list .string).Reads (depth + 1) (strings modules) modules := by
  apply reads_list
  rw [List.forall₂_map_left_iff, List.forall₂_same]
  exact fun s _ => reads_string s

theorem toleranceDecoder_reads (h : d.Denoted) : toleranceDecoder.Reads depth (.str d.text) d := by
  apply (reads_string d.text).refine
  rw [Duration.parse_text h]
  rfl

theorem Http.decoder_reads (c : Http) : Http.decoder.Reads (depth + 2) c.toJson c := by
  apply Sets.reads
  exact .field rfl (by decide) (hostDecoder_reads c.host) <|
    .field rfl (by decide) (portDecoder_reads c.port) <|
    .field rfl (by decide) (reads_bool c.enabled) <|
    .field rfl (by decide) (modules_reads c.modules) <|
    .field rfl (by decide) (limitDecoder_reads c.maxBatchSize) <|
    .done rfl

theorem WebSocket.decoder_reads (c : WebSocket) :
    WebSocket.decoder.Reads (depth + 2) c.toJson c := by
  apply Sets.reads
  exact .field rfl (by decide) (hostDecoder_reads c.host) <|
    .field rfl (by decide) (portDecoder_reads c.port) <|
    .field rfl (by decide) (reads_bool c.enabled) <|
    .field rfl (by decide) (modules_reads c.modules) <|
    .field rfl (by decide) (limitDecoder_reads c.maxMessageSize) <|
    .done rfl

theorem Auth.decoder_reads {c : Auth} (h : c.tolerance.Denoted) :
    Auth.decoder.Reads (depth + 1) c.toJson c := by
  apply Sets.reads
  exact .field rfl (by decide) (hostDecoder_reads c.host) <|
    .field rfl (by decide) (portDecoder_reads c.port) <|
    .field rfl (by decide) (reads_spelled rfl) <|
    .field rfl (by decide) (toleranceDecoder_reads h) <|
    .done rfl

theorem decoder_reads (h : c.auth.tolerance.Denoted) :
    decoder.Reads (depth + 3) c.toJson c := by
  apply Sets.reads
  exact .field rfl (by decide) (Http.decoder_reads c.http) <|
    .field rfl (by decide) (WebSocket.decoder_reads c.websocket) <|
    .field rfl (by decide) (Auth.decoder_reads h) <|
    .done rfl

/-- A configuration comes back from its text exactly if some text denotes its tolerance. -/
theorem decode_text_iff : decoder.decode c.toJson.text = .ok c ↔ c.auth.tolerance.Denoted :=
  ⟨decoder_yields.of_decode, fun h => (decoder_reads h).decode_text⟩

/-- What has been loaded and overlaid with the environment is loaded again as it was saved. -/
theorem loaded_saves (h : decoder.decode text = .ok c) (env : Environment) :
    decoder.decode (c.overlayEnv env).toJson.text = .ok (c.overlayEnv env) ∧
      (decoder.decode (c.overlayEnv env).toJson.text).map validate =
        .ok (c.overlayEnv env).validate := by
  have ht := denoted_overlayEnv (decoder_yields.of_decode h) env
  rw [decode_text_iff.2 ht]
  exact ⟨rfl, rfl⟩

/-- A key that is not known, a listener as a list, and milliseconds; the environment sets a port. -/
theorem loaded_saves_millis :
    let text := "\x7b\"x\":[1],\"auth\":[\"::1\",0,\"secret\",\" +25 ms\"]\x7d"
    let env : Environment := fun name => if name = "QC_HTTP_PORT" then some "+70" else none
    let c : Config := { auth := {
      host := .v6 ⟨#[0, 0, 0, 0, 0, 0, 0, 1], rfl⟩
      port := 0
      secretPath := "secret"
      tolerance := .ofMillis 25 (by decide) } }
    decoder.decode text = .ok c ∧
      decoder.decode (c.overlayEnv env).toJson.text = .ok (c.overlayEnv env) ∧
      (decoder.decode (c.overlayEnv env).toJson.text).map validate =
        .ok (c.overlayEnv env).validate := by
  intro text env c
  have h : decoder.decode text = .ok c := by
    subst text c
    rfl
  exact ⟨h, loaded_saves h env⟩

end TokenGate.Config
