import DarkTower.Devloop.PortSafety
import DarkTower.Lib.IpText
import DarkTower.Lib.Replace

/-!
# The template of the kind configuration

Model of `template_env_vars` and `substitute_template` (`devloop-helper/src/ports.rs:441`), with
the check of the gateway address that `cmd_setup` makes before it calls them and the name of the
cluster that it adds to the variables (`setupVars`). A `HashMap` is the list of its entries, in
the order of an iteration.

* `apart_of_harmless`: values that have no part of a placeholder's form and are no part of a
  placeholder keep apart from the placeholders. An address that passes the check, a port of the
  configured range and the name of a cluster are like that.
* `substituteTemplate_spec`, `substituteTemplate_setupVars`: in every order, the loop over the
  variables comes to one pass over the template, and other references stay.
-/

namespace DarkTower.Devloop

open DarkTower.Lib DarkTower.Lib.Replace

/-! ## The variables -/

namespace PortOffsets

/-- `PortOffsets::AC_HTTP` (line 25). -/
def acHttp : ℕ := 0
/-- `PortOffsets::GC_HTTP`. -/
def gcHttp : ℕ := 1
/-- `PortOffsets::GC_GRPC`. -/
def gcGrpc : ℕ := 2
/-- `PortOffsets::MC_0_HEALTH`. -/
def mc0Health : ℕ := 10
/-- `PortOffsets::MC_0_GRPC`. -/
def mc0Grpc : ℕ := 11
/-- `PortOffsets::MC_0_WEBTRANSPORT`. -/
def mc0Webtransport : ℕ := 12
/-- `PortOffsets::MC_1_HEALTH`. -/
def mc1Health : ℕ := 13
/-- `PortOffsets::MC_1_GRPC`. -/
def mc1Grpc : ℕ := 14
/-- `PortOffsets::MC_1_WEBTRANSPORT`. -/
def mc1Webtransport : ℕ := 15
/-- `PortOffsets::MH_0_HEALTH`. -/
def mh0Health : ℕ := 20
/-- `PortOffsets::MH_0_GRPC`. -/
def mh0Grpc : ℕ := 21
/-- `PortOffsets::MH_0_WEBTRANSPORT`. -/
def mh0Webtransport : ℕ := 22
/-- `PortOffsets::MH_1_HEALTH`. -/
def mh1Health : ℕ := 23
/-- `PortOffsets::MH_1_GRPC`. -/
def mh1Grpc : ℕ := 24
/-- `PortOffsets::MH_1_WEBTRANSPORT`. -/
def mh1Webtransport : ℕ := 25
/-- `PortOffsets::PROMETHEUS`. -/
def prometheus : ℕ := 100
/-- `PortOffsets::GRAFANA`. -/
def grafana : ℕ := 101
/-- `PortOffsets::LOKI`. -/
def loki : ℕ := 102
/-- `PortOffsets::K8S_API`. -/
def k8sApi : ℕ := 103
/-- `PortOffsets::K8S_API_HOST`. -/
def k8sApiHost : ℕ := 104

end PortOffsets

/-- `PortAllocation::port` (line 59), in `u16`. -/
def PortAllocation.port (alloc : PortAllocation) (offset : ℕ) : ℕ :=
  (alloc.basePort + offset) % 2 ^ 16

/-- The variables for ports, with their offsets. -/
def portVars : List (String × ℕ) :=
  [("HOST_PORT_AC_HTTP", PortOffsets.acHttp), ("HOST_PORT_GC_HTTP", PortOffsets.gcHttp),
    ("HOST_PORT_GC_GRPC", PortOffsets.gcGrpc), ("HOST_PORT_MC_0_HEALTH", PortOffsets.mc0Health),
    ("HOST_PORT_MC_0_GRPC", PortOffsets.mc0Grpc),
    ("HOST_PORT_MC_0_WEBTRANSPORT", PortOffsets.mc0Webtransport),
    ("HOST_PORT_MC_1_HEALTH", PortOffsets.mc1Health),
    ("HOST_PORT_MC_1_GRPC", PortOffsets.mc1Grpc),
    ("HOST_PORT_MC_1_WEBTRANSPORT", PortOffsets.mc1Webtransport),
    ("HOST_PORT_MH_0_HEALTH", PortOffsets.mh0Health),
    ("HOST_PORT_MH_0_GRPC", PortOffsets.mh0Grpc),
    ("HOST_PORT_MH_0_WEBTRANSPORT", PortOffsets.mh0Webtransport),
    ("HOST_PORT_MH_1_HEALTH", PortOffsets.mh1Health),
    ("HOST_PORT_MH_1_GRPC", PortOffsets.mh1Grpc),
    ("HOST_PORT_MH_1_WEBTRANSPORT", PortOffsets.mh1Webtransport),
    ("HOST_PORT_PROMETHEUS", PortOffsets.prometheus), ("HOST_PORT_GRAFANA", PortOffsets.grafana),
    ("HOST_PORT_LOKI", PortOffsets.loki), ("HOST_PORT_K8S_API", PortOffsets.k8sApi),
    ("HOST_PORT_K8S_API_HOST", PortOffsets.k8sApiHost)]

/-- `u16::to_string`. -/
def portText (port : ℕ) : List Char := Nat.toDigits 10 port

/-- `template_env_vars` (line 441). -/
def templateEnvVars (alloc : PortAllocation) (hostGatewayIp : List Char) :
    List (String × List Char) :=
  ("HOST_GATEWAY_IP", hostGatewayIp) :: portVars.map fun v => (v.1, portText (alloc.port v.2))

/-- The name of the cluster (main.rs:45). -/
def clusterName (slug : ValidSlug) : List Char := "devloop-".toList ++ slug.1

/-- The variables that `cmd_setup` substitutes (commands.rs:641). -/
def setupVars (alloc : PortAllocation) (hostGatewayIp : List Char) (slug : ValidSlug) :
    List (String × List Char) :=
  ("CLUSTER_NAME", clusterName slug) :: templateEnvVars alloc hostGatewayIp

/-- The placeholder of a variable. -/
def placeholder (key : String) : List Char := '$' :: ('\x7b' :: key.toList ++ ['\x7d'])

/-- `substitute_template` (line 528). -/
def substituteTemplate (template : List Char) (vars : List (String × List Char)) : List Char :=
  vars.foldl (fun result v => replace (placeholder v.1) v.2 result) template

/-- `validate_gateway_ip` (commands.rs:599). -/
def validateGatewayIp (ip : List Char) : Except HelperError Unit :=
  match IpText.parse ip with
  | none => .error (.invalidRequest ("invalid host-gateway-ip: '" ++ String.ofList ip ++ "'"))
  | some addr =>
    if addr.isUnspecified then
      .error (.invalidRequest
        "host-gateway-ip must not be 0.0.0.0 or :: (ADR-0030 prohibits binding to all interfaces)")
    else .ok ()

/-! ## Placeholders and values -/

/-- What `substitute_template` replaces. -/
def placeholderRules (vars : List (String × List Char)) : Rules Char :=
  vars.map fun v => (placeholder v.1, v.2)

/-- The names of the variables of `template_env_vars`. -/
def varNames : List String := "HOST_GATEWAY_IP" :: portVars.map (·.1)

/-- The names of the variables that `cmd_setup` substitutes. -/
def setupNames : List String := "CLUSTER_NAME" :: varNames

/-- The value has no part of a placeholder's form and is no part of a placeholder. -/
def Harmless (value : List Char) : Prop :=
  ('$' ∉ value ∧ '\x7d' ∉ value) ∧ ∀ key ∈ setupNames, ¬value <:+: placeholder key

variable {alloc : PortAllocation} {ip : List Char} {slug : ValidSlug} {key : String} {port : ℕ}

theorem placeholder_injective : Function.Injective placeholder := by
  intro key key' h
  have hbody := List.append_inj_left' (List.cons.inj (List.cons.inj h).2).2 rfl
  exact String.toList_injective hbody

theorem marked_placeholder (hfirst : '$' ∉ key.toList) (hlast : '\x7d' ∉ key.toList) :
    Marked '$' '\x7d' (placeholder key) :=
  ⟨'\x7b' :: key.toList, rfl, by simpa using hfirst, by simpa using hlast⟩

theorem setupNames_clear : ∀ key ∈ setupNames, '$' ∉ key.toList ∧ '\x7d' ∉ key.toList := by
  decide +kernel

/-- A placeholder has no two digits side by side. -/
theorem setupNames_digits : ∀ key ∈ setupNames,
    (placeholder key).IsChain fun a b => ¬(a.isDigit = true ∧ b.isDigit = true) := by
  decide +kernel

theorem setupNames_marks : ∀ key ∈ setupNames, '.' ∉ placeholder key ∧ ':' ∉ placeholder key := by
  decide +kernel

theorem isDigit_of_mem_portText {c : Char} (hc : c ∈ portText port) : c.isDigit = true :=
  Nat.isDigit_of_mem_toDigits (by decide) (le_refl 10) hc

/-- A port of two digits or more is no part of a placeholder. -/
theorem not_infix_portText (hport : 10 ≤ port) (hkey : key ∈ setupNames) :
    ¬portText port <:+: placeholder key := by
  intro hin
  have hlen : 2 ≤ (portText port).length := by
    have hpos := List.length_pos_iff.mpr (Nat.toDigits_ne_nil (n := port / 10) (b := 10))
    rw [portText, Nat.toDigits_of_base_le (by decide) hport, List.length_append]
    exact Nat.succ_le_succ hpos
  have hchain := List.IsChain.infix (setupNames_digits key hkey) hin
  have hdigit {c : Char} (hc : c ∈ portText port) : c.isDigit = true := isDigit_of_mem_portText hc
  match htext : portText port with
  | [] | [_] => rw [htext] at hlen; exact absurd hlen (by simp)
  | a :: b :: rest =>
    rw [htext] at hchain hdigit
    exact (List.isChain_cons_cons.mp hchain).1 ⟨hdigit (by simp), hdigit (by simp)⟩

theorem portText_clear : '$' ∉ portText port ∧ '\x7d' ∉ portText port :=
  ⟨fun h => absurd (isDigit_of_mem_portText h) (by decide),
    fun h => absurd (isDigit_of_mem_portText h) (by decide)⟩

theorem validateGatewayIp_clear (h : validateGatewayIp ip = .ok ()) :
    '$' ∉ ip ∧ '\x7d' ∉ ip ∧ IpText.HasMark ip := by
  unfold validateGatewayIp at h
  split at h
  · cases h
  · next addr hparse =>
    obtain ⟨hchars, hmark⟩ := IpText.parse_front hparse
    exact ⟨fun h => absurd (hchars _ h) (by decide), fun h => absurd (hchars _ h) (by decide),
      hmark⟩

theorem not_infix_gatewayIp (h : validateGatewayIp ip = .ok ()) (hkey : key ∈ setupNames) :
    ¬ip <:+: placeholder key := by
  obtain ⟨hdot, hcolon⟩ := setupNames_marks key hkey
  intro hin
  obtain hmark | hmark := (validateGatewayIp_clear h).2.2
  · exact hdot (hin.subset hmark)
  · exact hcolon (hin.subset hmark)

theorem port_of_range (h : alloc.ports ⊆ portRange) {offset : ℕ} (hoffset : offset < stride) :
    portRangeStart ≤ alloc.port offset := by
  have hmem : alloc.basePort + offset ∈ portRange :=
    h (Finset.mem_Ico.mpr ⟨Nat.le_add_right _ _, Nat.add_lt_add_left hoffset _⟩)
  obtain ⟨hlow, hhigh⟩ := Finset.mem_Ico.mp hmem
  unfold PortAllocation.port
  rwa [Nat.mod_eq_of_lt (hhigh.trans (by decide))]

theorem portVars_offset : ∀ v ∈ portVars, v.2 < stride := by decide

/-- What is true of every entry that `template_env_vars` makes. -/
theorem forall_mem_templateEnvVars {P : String × List Char → Prop}
    (hip : P ("HOST_GATEWAY_IP", ip))
    (hport : ∀ v ∈ portVars, P (v.1, portText (alloc.port v.2))) :
    ∀ v ∈ templateEnvVars alloc ip, P v := by
  intro v hv
  obtain rfl | hv := List.mem_cons.mp hv
  · exact hip
  · obtain ⟨w, hw, rfl⟩ := List.mem_map.mp hv
    exact hport w hw

theorem map_fst_templateEnvVars (alloc : PortAllocation) (ip : List Char) :
    (templateEnvVars alloc ip).map (·.1) = varNames := by
  rw [templateEnvVars, List.map_cons, List.map_map]
  rfl

theorem map_fst_setupVars (alloc : PortAllocation) (ip : List Char) (slug : ValidSlug) :
    (setupVars alloc ip slug).map (·.1) = setupNames := by
  rw [setupVars, List.map_cons, map_fst_templateEnvVars]
  rfl

theorem harmless_templateEnvVars (hports : alloc.ports ⊆ portRange)
    (hip : validateGatewayIp ip = .ok ()) : ∀ v ∈ templateEnvVars alloc ip, Harmless v.2 := by
  refine forall_mem_templateEnvVars ⟨?_, fun key => not_infix_gatewayIp hip⟩ fun v hv =>
    ⟨portText_clear, fun key => not_infix_portText ?_⟩
  · obtain ⟨hfirst, hlast, -⟩ := validateGatewayIp_clear hip
    exact ⟨hfirst, hlast⟩
  · exact le_trans (by decide) (port_of_range hports (portVars_offset v hv))

/-- The name of a cluster has a small letter, and no placeholder has one. -/
theorem harmless_clusterName (slug : ValidSlug) : Harmless (clusterName slug) := by
  have hchars : ∀ c ∈ clusterName slug, isSlugEnd c = true ∨ c = '-' := by
    have hfront : ∀ c ∈ "devloop-".toList, isSlugEnd c = true ∨ c = '-' := by simp [isSlugEnd]
    intro c hc
    obtain hc | hc := List.mem_append.mp hc
    · exact hfront c hc
    · exact slug.chars c hc
  refine ⟨⟨fun h => ?_, fun h => ?_⟩, fun key hkey hin => ?_⟩
  · exact absurd (hchars _ h) (by decide)
  · exact absurd (hchars _ h) (by decide)
  · have hsmall : ∀ key ∈ setupNames, 'd' ∉ placeholder key := by decide +kernel
    exact hsmall key hkey (hin.subset (List.mem_append_left slug.1 (by decide)))

/-- Placeholders and harmless values keep apart. -/
theorem apart_of_harmless {vars : List (String × List Char)}
    (hnames : ∀ v ∈ vars, v.1 ∈ setupNames) (hnodup : (vars.map (·.1)).Nodup)
    (hvalues : ∀ v ∈ vars, Harmless v.2) : Apart '$' '\x7d' (placeholderRules vars) := by
  constructor
  · decide
  · rw [placeholderRules, List.map_map]
    have := hnodup.map placeholder_injective
    rwa [List.map_map] at this
  · refine List.forall_mem_map.mpr fun v hv => ?_
    obtain ⟨hfirst, hlast⟩ := setupNames_clear _ (hnames v hv)
    exact marked_placeholder hfirst hlast
  · exact List.forall_mem_map.mpr fun v hv => (hvalues v hv).1
  · exact List.forall_mem_map.mpr fun v hv => List.forall_mem_map.mpr fun w hw =>
      (hvalues v hv).2 _ (hnames w hw)

theorem apart_templateEnvVars (hports : alloc.ports ⊆ portRange)
    (hip : validateGatewayIp ip = .ok ()) :
    Apart '$' '\x7d' (placeholderRules (templateEnvVars alloc ip)) := by
  refine apart_of_harmless (fun v hv => List.mem_cons_of_mem _ ?_) ?_
    (harmless_templateEnvVars hports hip)
  · rw [← map_fst_templateEnvVars alloc ip]
    exact List.mem_map_of_mem hv
  · rw [map_fst_templateEnvVars]
    decide +kernel

theorem apart_setupVars (hports : alloc.ports ⊆ portRange) (hip : validateGatewayIp ip = .ok ())
    (slug : ValidSlug) : Apart '$' '\x7d' (placeholderRules (setupVars alloc ip slug)) := by
  refine apart_of_harmless (fun v hv => ?_) ?_
    (List.forall_mem_cons.mpr ⟨harmless_clusterName slug, harmless_templateEnvVars hports hip⟩)
  · rw [← map_fst_setupVars alloc ip slug]
    exact List.mem_map_of_mem hv
  · rw [map_fst_setupVars]
    decide +kernel

/-! ## Substitution -/

theorem substituteTemplate_eq_foldl (vars : List (String × List Char)) (template : List Char) :
    substituteTemplate template vars =
      (placeholderRules vars).foldl (fun cs r => replace r.1 r.2 cs) template := by
  rw [placeholderRules, List.foldl_map]
  rfl

/-- Where placeholders and values keep apart, every order comes to one pass, and a reference to no
    variable stays. -/
theorem substituteTemplate_of_apart {vars order : List (String × List Char)}
    (hapart : Apart '$' '\x7d' (placeholderRules vars)) (horder : order.Perm vars)
    (template : List Char) :
    substituteTemplate template order = rewrite (placeholderRules vars) template ∧
      ∀ before key after, '$' ∉ key.toList → '\x7d' ∉ key.toList → key ∉ vars.map (·.1) →
        template = before ++ (placeholder key ++ after) →
        substituteTemplate template order = substituteTemplate before order ++
          (placeholder key ++ substituteTemplate after order) := by
  have hpass : ∀ text, substituteTemplate text order = rewrite (placeholderRules vars) text := by
    intro text
    have hperm : (placeholderRules order).Perm (placeholderRules vars) := horder.map _
    rw [substituteTemplate_eq_foldl, foldl_replace_eq_rewrite (hapart.perm hperm.symm),
      rewrite_perm (hapart.perm hperm.symm) hperm]
  refine ⟨hpass template, fun before key after hfirst hlast hkey htemplate => ?_⟩
  have hkept : rewrite (placeholderRules vars) (placeholder key ++ after) =
      placeholder key ++ rewrite (placeholderRules vars) after := by
    refine (marked_placeholder hfirst hlast).rewrite_append hapart.ne fun r hr =>
      ⟨hapart.marked r hr, ?_⟩
    obtain ⟨v, hv, rfl⟩ := List.mem_map.mp hr
    intro heq
    rw [← placeholder_injective heq] at hkey
    exact hkey (List.mem_map_of_mem hv)
  rw [hpass, hpass, hpass, htemplate, ← hkept]
  exact hapart.rewrite_append_first before _

/-- What `cmd_setup` writes, with the name of the cluster. -/
theorem substituteTemplate_setupVars (hports : alloc.ports ⊆ portRange)
    (hip : validateGatewayIp ip = .ok ()) (slug : ValidSlug) {order : List (String × List Char)}
    (horder : order.Perm (setupVars alloc ip slug)) (template : List Char) :
    substituteTemplate template order =
        rewrite (placeholderRules (setupVars alloc ip slug)) template ∧
      ∀ before key after, '$' ∉ key.toList → '\x7d' ∉ key.toList → key ∉ setupNames →
        template = before ++ (placeholder key ++ after) →
        substituteTemplate template order = substituteTemplate before order ++
          (placeholder key ++ substituteTemplate after order) := by
  rw [← map_fst_setupVars alloc ip slug]
  exact substituteTemplate_of_apart (apart_setupVars hports hip slug) horder template

/-- In every order of the variables, the placeholders are replaced in one pass over the template.
    A reference to no variable stays, and parts the template in two. -/
theorem substituteTemplate_spec (hports : alloc.ports ⊆ portRange)
    (hip : validateGatewayIp ip = .ok ()) {order : List (String × List Char)}
    (horder : order.Perm (templateEnvVars alloc ip)) (template : List Char) :
    substituteTemplate template order =
        rewrite (placeholderRules (templateEnvVars alloc ip)) template ∧
      ∀ before key after, '$' ∉ key.toList → '\x7d' ∉ key.toList → key ∉ varNames →
        template = before ++ (placeholder key ++ after) →
        substituteTemplate template order = substituteTemplate before order ++
          (placeholder key ++ substituteTemplate after order) := by
  rw [← map_fst_templateEnvVars alloc ip]
  exact substituteTemplate_of_apart (apart_templateEnvVars hports hip) horder template

theorem substituteTemplate_reversed :
    substituteTemplate "$\x7bNAME\x7d: $\x7bHOST_PORT_MC_$\x7bHOST_PORT_LOKI\x7d_GRPC\x7d".toList
        (templateEnvVars ⟨24200, 21⟩ "10.255.255.254".toList).reverse =
      rewrite (placeholderRules (templateEnvVars ⟨24200, 21⟩ "10.255.255.254".toList))
        "$\x7bNAME\x7d: $\x7bHOST_PORT_MC_$\x7bHOST_PORT_LOKI\x7d_GRPC\x7d".toList :=
  (substituteTemplate_spec (Finset.Ico_subset_Ico (by decide) (by decide)) (by rfl)
    (List.reverse_perm _) _).1

end DarkTower.Devloop
