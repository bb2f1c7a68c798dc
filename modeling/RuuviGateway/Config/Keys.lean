import RuuviGateway.Config.Generate

/-!
# The keys of a generated configuration

The keys are distinct even without regard to case, so each item of a generated configuration
is found under its key. Keys of secrets are not among those for the browser.
-/

namespace RuuviGateway.Config

open General

variable {P : Platform}

section Names

def names (items : Items) : List String := items.map Prod.fst

def namesRemote (hide : Bool) : List String :=
  ["remote_cfg_use", "remote_cfg_url", "remote_cfg_auth_type", "remote_cfg_auth_basic_user"] ++
  (if hide then [] else ["remote_cfg_auth_basic_pass", "remote_cfg_auth_bearer_token",
    "remote_cfg_auth_token", "remote_cfg_auth_apikey"]) ++
  ["remote_cfg_use_ssl_client_cert", "remote_cfg_use_ssl_server_cert",
    "remote_cfg_refresh_interval_minutes"]

/-- The key of the URL stands before that of the data format in every form of the section. -/
def namesHttp (hide : Bool) : List String :=
  ["use_http_ruuvi", "use_http", "http_use_ssl_client_cert", "http_use_ssl_server_cert", "http_url",
    "http_period", "http_data_format", "http_auth", "http_user"] ++
  if hide then [] else ["http_pass", "http_bearer_token", "http_api_key"]

def namesHttpStat (hide : Bool) : List String :=
  ["use_http_stat", "http_stat_url", "http_stat_user"] ++
  (if hide then [] else ["http_stat_pass"]) ++
  ["http_stat_use_ssl_client_cert", "http_stat_use_ssl_server_cert"]

def namesMqtt (hide : Bool) : List String :=
  ["use_mqtt", "mqtt_disable_retained_messages", "mqtt_transport", "mqtt_data_format",
    "mqtt_server", "mqtt_port", "mqtt_sending_interval", "mqtt_prefix", "mqtt_client_id",
    "mqtt_user"] ++
  (if hide then [] else ["mqtt_pass"]) ++
  ["mqtt_use_ssl_client_cert", "mqtt_use_ssl_server_cert"]

def namesLanAuth (hide : Bool) : List String :=
  ["lan_auth_type", "lan_auth_user"] ++
  if hide then ["lan_auth_api_key_use", "lan_auth_api_key_rw_use"]
  else ["lan_auth_pass", "lan_auth_api_key", "lan_auth_api_key_rw"]

def namesEth : List String :=
  ["use_eth", "eth_dhcp", "eth_static_ip", "eth_netmask", "eth_gw", "eth_dns1", "eth_dns2"]

/-- The keys after those of the LAN authentication, which nothing depends on. -/
def namesCommon : List String :=
  ["auto_update_cycle", "auto_update_weekdays_bitmask", "auto_update_interval_from",
    "auto_update_interval_to", "auto_update_tz_offset_hours"] ++
  ["ntp_use", "ntp_use_dhcp", "ntp_server1", "ntp_server2", "ntp_server3", "ntp_server4"] ++
  ["company_id", "company_use_filtering"] ++
  ["scan_coded_phy", "scan_1mbit_phy", "scan_2mbit_phy", "scan_channel_37", "scan_channel_38",
    "scan_channel_39", "scan_default"] ++
  ["scan_filter_allow_listed", "scan_filter_list"] ++
  ["coordinates", "fw_update_url"]

def namesRuuvi (hide : Bool) : List String :=
  namesRemote hide ++ namesHttp hide ++ namesHttpStat hide ++ namesMqtt hide ++
  namesLanAuth hide ++ namesCommon

def namesAll (hide : Bool) : List String :=
  (if hide then ["fw_ver", "nrf52_fw_ver", "gw_mac", "storage"] else []) ++
  ["wifi_sta_config"] ++ ["wifi_ap_config"] ++ namesEth ++ namesRuuvi hide

/-- The keys of both forms. -/
def namesEvery : List String :=
  ["fw_ver", "nrf52_fw_ver", "gw_mac", "storage", "wifi_sta_config", "wifi_ap_config"] ++
  namesEth ++ namesRemote false ++ namesHttp false ++ namesHttpStat false ++ namesMqtt false ++
  namesLanAuth true ++ (namesLanAuth false).drop 2 ++ namesCommon

/-- The keys of the secrets, none of which is written for the browser. -/
def secretKeys : List String :=
  ["remote_cfg_auth_basic_pass", "remote_cfg_auth_bearer_token", "http_pass", "http_bearer_token",
    "http_api_key", "http_stat_pass", "mqtt_pass", "lan_auth_pass", "lan_auth_api_key",
    "lan_auth_api_key_rw"]

end Names

section Distinct

theorem nodup_namesEvery : namesEvery.Nodup := by
  simp [namesEvery, namesEth, namesRemote, namesHttp, namesHttpStat, namesMqtt, namesLanAuth,
    namesCommon]

/-- Keys are in lower case already. -/
theorem keyText_namesEvery : ∀ key ∈ namesEvery, Json.keyText key = key.toList := by
  decide

theorem namesAll_sublist (hide : Bool) : (namesAll hide).Sublist namesEvery := by
  cases hide <;> decide

theorem nodup_keyText_namesAll (hide : Bool) : ((namesAll hide).map Json.keyText).Nodup := by
  have hsub := namesAll_sublist hide
  refine (nodup_namesEvery.sublist hsub).map_on ?_
  intro a ha b hb hab
  rw [keyText_namesEvery a (hsub.subset ha), keyText_namesEvery b (hsub.subset hb)] at hab
  exact String.toList_inj.mp hab

theorem keyText_not_mem {key : String} {hide : Bool} (hlower : Json.keyText key = key.toList)
    (h : key ∉ namesAll hide) : Json.keyText key ∉ (namesAll hide).map Json.keyText := by
  intro hmem
  obtain ⟨name, hname, heq⟩ := List.mem_map.mp hmem
  rw [hlower, keyText_namesEvery name ((namesAll_sublist hide).subset hname)] at heq
  exact h (String.toList_inj.mp heq ▸ hname)

theorem secretKeys_hidden : ∀ key ∈ secretKeys, key ∉ namesAll true := by
  simp [secretKeys, namesAll, namesRuuvi, namesEth, namesRemote, namesHttp, namesHttpStat,
    namesMqtt, namesLanAuth, namesCommon]

theorem secretKeys_subset : secretKeys ⊆ namesEvery := by
  simp [secretKeys, namesEvery, namesEth, namesRemote, namesHttp, namesHttpStat, namesMqtt,
    namesLanAuth, namesCommon]

end Distinct

section Sublists

theorem names_append (items items' : Items) :
    names (items ++ items') = names items ++ names items' :=
  List.map_append

theorem names_remote (cfg : GwCfgRemote) (hide : Bool) :
    (names (gwCfgJsonAddItemsRemote cfg hide)).Sublist (namesRemote hide) := by
  unfold gwCfgJsonAddItemsRemote
  cases cfg.authType <;> cases hide <;>
    simp only [names, gwCfgJsonAddItemsRemoteAuth, gwCfgJsonAddItemsRemoteAuthBasic,
      gwCfgJsonAddItemsRemoteAuthBearer, gwCfgJsonAddItemsRemoteAuthToken,
      gwCfgJsonAddItemsRemoteAuthApikey, addItemsAuthBasic, addItemsAuthToken, List.map_cons,
      List.map_append, List.map_nil, if_true, if_false, Bool.false_eq_true] <;>
    decide

theorem names_httpCustomParams (cfg : GwCfgHttp) (hide : Bool) :
    (names (gwCfgJsonAddItemsHttpCustomParams cfg hide)).Sublist ((namesHttp hide).drop 2) := by
  unfold gwCfgJsonAddItemsHttpCustomParams
  cases cfg.authType <;> cases hide <;>
    simp only [names, gwCfgJsonAddItemsHttpCustomAuth, gwCfgJsonAddItemsHttpCustomAuthBasic,
      gwCfgJsonAddItemsHttpCustomAuthBearer, gwCfgJsonAddItemsHttpCustomAuthToken,
      gwCfgJsonAddItemsHttpCustomAuthApikey, addItemsAuthBasic, addItemsAuthToken, List.map_cons,
      List.map_append, List.map_nil, if_true, if_false, Bool.false_eq_true] <;>
    decide

theorem names_http (cfg : GwCfgHttp) (hide : Bool) :
    (names (gwCfgJsonAddItemsHttp cfg hide)).Sublist (namesHttp hide) := by
  have hdefault : (names gwCfgJsonAddItemsHttpDefault).Sublist (namesHttp hide) := by
    cases hide <;> decide
  have hflags : ["use_http_ruuvi", "use_http"] ++ (namesHttp hide).drop 2 = namesHttp hide := by
    cases hide <;> decide
  unfold gwCfgJsonAddItemsHttp
  split_ifs
  · exact hdefault
  · exact hdefault
  · rw [names_append, ← hflags]
    exact (names_httpCustomParams cfg hide).append_left _
  · rw [names_append, ← hflags]
    exact (List.nil_sublist _).append_left _

theorem names_httpStat (cfg : GwCfgHttpStat) (hide : Bool) :
    names (gwCfgJsonAddItemsHttpStat cfg hide) = namesHttpStat hide := by
  cases hide <;> rfl

theorem names_mqtt (cfg : GwCfgMqtt) (hide : Bool) :
    names (gwCfgJsonAddItemsMqtt cfg hide) = namesMqtt hide := by
  cases hide <;> rfl

theorem names_lanAuth (default cfg : GwCfgLanAuth P) (hide : Bool) :
    (names (gwCfgJsonAddItemsLanAuth default cfg hide)).Sublist (namesLanAuth hide) := by
  cases hide
  · unfold gwCfgJsonAddItemsLanAuth gwCfgJsonAddItemsLanAuthPass
    cases cfg.lanAuthType <;>
      simp only [names, List.map_cons, List.map_append, List.map_nil, if_false,
        Bool.false_eq_true] <;>
      decide
  · exact List.Sublist.refl _

theorem names_ruuvi (default : GwCfgLanAuth P) (cfg : GwCfgRuuvi P) (hide : Bool) :
    (names (gwCfgJsonAddItemsRuuvi default cfg hide)).Sublist (namesRuuvi hide) := by
  unfold gwCfgJsonAddItemsRuuvi namesRuuvi namesCommon
  simp only [names_append, names_httpStat, names_mqtt, List.append_assoc]
  have hlan := (names_lanAuth default cfg.lanAuth hide).append (.refl namesCommon)
  have hmqtt := (List.Sublist.refl (namesMqtt hide)).append hlan
  have hstat := (List.Sublist.refl (namesHttpStat hide)).append hmqtt
  exact (names_remote cfg.remote hide).append ((names_http cfg.http hide).append hstat)

theorem names_all (storage : GwCfgStorage) (default cfg : GwCfg P) (hide : Bool) :
    (names (gwCfgJsonAddItems storage default cfg hide)).Sublist (namesAll hide) := by
  unfold gwCfgJsonAddItems namesAll
  simp only [names_append]
  have hdevice : (names (if hide then gwCfgJsonAddItemsDeviceInfo storage cfg.deviceInfo
      else [])).Sublist (if hide then ["fw_ver", "nrf52_fw_ver", "gw_mac", "storage"] else []) := by
    cases hide <;> exact List.Sublist.refl _
  have hruuvi := names_ruuvi default.ruuviCfg.lanAuth cfg.ruuviCfg hide
  exact ((((hdevice.append (.refl _)).append (.refl _)).append (.refl _)).append hruuvi)

end Sublists

section Written

/-- What a parser finds in the JSON that was generated from a configuration. -/
structure Written (root : Json) (default cfg : GwCfg P) (hide : Bool) : Prop where
  eth : root.Contains (gwCfgJsonAddItemsEth cfg.ethCfg)
  ruuvi : root.Contains (gwCfgJsonAddItemsRuuvi default.ruuviCfg.lanAuth cfg.ruuviCfg hide)
  wifiAp : root.Contains (gwCfgJsonAddItemsWifiApConfig cfg.wifiCfg hide)
  wifiSta : root.Contains (gwCfgJsonAddItemsWifiStaConfig cfg.wifiCfg hide)
  lacksSecrets : hide = true → ∀ key ∈ secretKeys, root.getObjectItem key = none
  lacksDeprecated : root.getObjectItem "scan_extended_payload" = none

theorem nodup_keys (storage : GwCfgStorage) (default cfg : GwCfg P) (hide : Bool) :
    (Json.keys (gwCfgJsonAddItems storage default cfg hide)).Nodup := by
  have hsub := (names_all storage default cfg hide).map Json.keyText
  rw [names, List.map_map] at hsub
  exact hsub.nodup (nodup_keyText_namesAll hide)

theorem lacks_key {storage : GwCfgStorage} {default cfg : GwCfg P} {hide : Bool} {key : String}
    (hlower : Json.keyText key = key.toList) (h : key ∉ namesAll hide) :
    (Json.object (gwCfgJsonAddItems storage default cfg hide)).getObjectItem key = none := by
  apply Json.find_eq_none
  intro hmem
  apply keyText_not_mem hlower h
  have hsub := (names_all storage default cfg hide).map Json.keyText
  rw [names, List.map_map] at hsub
  exact hsub.subset hmem

theorem written (storage : GwCfgStorage) (default cfg : GwCfg P) (hide : Bool) :
    Written (.object (gwCfgJsonAddItems storage default cfg hide)) default cfg hide := by
  have hnodup := nodup_keys storage default cfg hide
  constructor
  case eth | ruuvi | wifiAp | wifiSta =>
    apply Json.contains_object hnodup
    intro item hitem
    simp [gwCfgJsonAddItems, hitem]
  case lacksSecrets =>
    rintro rfl key hkey
    exact lacks_key (keyText_namesEvery key (secretKeys_subset hkey)) (secretKeys_hidden key hkey)
  case lacksDeprecated =>
    apply lacks_key
    · decide
    · cases hide <;> decide

end Written

end RuuviGateway.Config
