import AgentTower.Lib.Ddl

/-!
# The registry's schema

`open_registry` on a database: the version row, and the migrations of `schema.py`.  Each statement is a
transaction of its own; only the upgrade of an older database is one.  The modes of the files are left
out, and so are the tables and indexes that SQLite makes by itself.
-/

namespace AgentTower.Schema

open Ddl

/-! ## Tables -/

inductive TableName where
  | schemaVersion | containers | containerScans | panes | paneScans | agents | logAttachments
  | logOffsets | events | messageQueue | daemonState | eventsNew | routes
  deriving DecidableEq, Repr

inductive IndexName where
  | containersActiveLastscan | containerScansStarted | panesActiveOrder | panesContainerSocket
  | paneScansStarted | agentsActiveOrder | agentsParentLookup | agentsPaneLookup
  | logAttachmentsAgentStatus | logAttachmentsPaneStatus | logAttachmentsActiveLogPath
  | logOffsetsAgent | idxEventsAgentEventid | idxEventsTypeEventid | idxEventsObservedatEventid
  | idxEventsJsonlPending | idxMessageQueueStateEnqueued | idxMessageQueueTargetEnqueued
  | idxMessageQueueSenderEnqueued | idxMessageQueueInFlight | idxRoutesCreatedAtRouteId
  | idxMessageQueueRouteEvent
  deriving DecidableEq, Repr

def checkIn (column : String) (values : List String) : String :=
  "CHECK (" ++ column ++ " IN (" ++ ", ".intercalate (values.map fun v => "'" ++ v ++ "'") ++ "))"

def checkNullOrIn (column : String) (values : List String) : String :=
  "CHECK (" ++ column ++ " IS NULL OR " ++ column ++ " IN (" ++
    ", ".intercalate (values.map fun v => "'" ++ v ++ "'") ++ "))"

def asc (column : String) : IndexColumn := ⟨column, false⟩

def desc (column : String) : IndexColumn := ⟨column, true⟩

def schemaVersion : TableDef TableName where
  name := .schemaVersion
  columns := [⟨"version", "INTEGER", true, []⟩]
  constraints := []

def containers : TableDef TableName where
  name := .containers
  columns :=
    [⟨"container_id", "TEXT", false, ["PRIMARY KEY"]⟩, ⟨"name", "TEXT", true, []⟩,
     ⟨"image", "TEXT", true, []⟩,
     ⟨"status", "TEXT", true, []⟩,
     ⟨"labels_json", "TEXT", true, ["DEFAULT '\x7b\x7d'"]⟩,
     ⟨"mounts_json", "TEXT", true, ["DEFAULT '[]'"]⟩,
     ⟨"inspect_json", "TEXT", true, ["DEFAULT '\x7b\x7d'"]⟩,
     ⟨"config_user", "TEXT", false, []⟩,
     ⟨"working_dir", "TEXT", false, []⟩,
     ⟨"active", "INTEGER", true, ["CHECK (active IN (0, 1))"]⟩,
     ⟨"first_seen_at", "TEXT", true, []⟩,
     ⟨"last_scanned_at", "TEXT", true, []⟩]
  constraints := []

def containerScans : TableDef TableName where
  name := .containerScans
  columns :=
    [⟨"scan_id", "TEXT", false, ["PRIMARY KEY"]⟩, ⟨"started_at", "TEXT", true, []⟩,
     ⟨"completed_at", "TEXT", true, []⟩,
     ⟨"status", "TEXT", true, [checkIn "status" ["ok", "degraded"]]⟩,
     ⟨"matched_count", "INTEGER", true, []⟩,
     ⟨"inactive_reconciled_count", "INTEGER", true, []⟩,
     ⟨"ignored_count", "INTEGER", true, []⟩,
     ⟨"error_code", "TEXT", false, []⟩,
     ⟨"error_message", "TEXT", false, []⟩,
     ⟨"error_details_json", "TEXT", false, []⟩]
  constraints := []

def paneKey : String :=
  "(container_id, tmux_socket_path, tmux_session_name, tmux_window_index, tmux_pane_index, " ++
    "tmux_pane_id)"

def panes : TableDef TableName where
  name := .panes
  columns :=
    [⟨"container_id", "TEXT", true, []⟩, ⟨"tmux_socket_path", "TEXT", true, []⟩,
     ⟨"tmux_session_name", "TEXT", true, []⟩,
     ⟨"tmux_window_index", "INTEGER", true, []⟩,
     ⟨"tmux_pane_index", "INTEGER", true, []⟩,
     ⟨"tmux_pane_id", "TEXT", true, []⟩,
     ⟨"container_name", "TEXT", true, []⟩,
     ⟨"container_user", "TEXT", true, []⟩,
     ⟨"pane_pid", "INTEGER", true, []⟩,
     ⟨"pane_tty", "TEXT", true, []⟩,
     ⟨"pane_current_command", "TEXT", true, []⟩,
     ⟨"pane_current_path", "TEXT", true, []⟩,
     ⟨"pane_title", "TEXT", true, []⟩,
     ⟨"pane_active", "INTEGER", true, ["CHECK (pane_active IN (0, 1))"]⟩,
     ⟨"active", "INTEGER", true, ["CHECK (active IN (0, 1))"]⟩,
     ⟨"first_seen_at", "TEXT", true, []⟩,
     ⟨"last_scanned_at", "TEXT", true, []⟩]
  constraints :=
    ["PRIMARY KEY " ++ paneKey]

def paneScans : TableDef TableName where
  name := .paneScans
  columns :=
    [⟨"scan_id", "TEXT", false, ["PRIMARY KEY"]⟩, ⟨"started_at", "TEXT", true, []⟩,
     ⟨"completed_at", "TEXT", true, []⟩,
     ⟨"status", "TEXT", true, [checkIn "status" ["ok", "degraded"]]⟩,
     ⟨"containers_scanned", "INTEGER", true, []⟩,
     ⟨"sockets_scanned", "INTEGER", true, []⟩,
     ⟨"panes_seen", "INTEGER", true, []⟩,
     ⟨"panes_newly_active", "INTEGER", true, []⟩,
     ⟨"panes_reconciled_inactive", "INTEGER", true, []⟩,
     ⟨"containers_skipped_inactive", "INTEGER", true, []⟩,
     ⟨"containers_tmux_unavailable", "INTEGER", true, []⟩,
     ⟨"error_code", "TEXT", false, []⟩,
     ⟨"error_message", "TEXT", false, []⟩,
     ⟨"error_details_json", "TEXT", false, []⟩]
  constraints := []

def agents : TableDef TableName where
  name := .agents
  columns :=
    [⟨"agent_id", "TEXT", true, ["PRIMARY KEY"]⟩, ⟨"container_id", "TEXT", true, []⟩,
     ⟨"tmux_socket_path", "TEXT", true, []⟩,
     ⟨"tmux_session_name", "TEXT", true, []⟩,
     ⟨"tmux_window_index", "INTEGER", true, []⟩,
     ⟨"tmux_pane_index", "INTEGER", true, []⟩,
     ⟨"tmux_pane_id", "TEXT", true, []⟩,
     ⟨"role", "TEXT", true, [checkIn "role" ["master", "slave", "swarm", "test-runner", "shell",
       "unknown"]]⟩,
     ⟨"capability", "TEXT", true, [checkIn "capability" ["claude", "codex", "gemini", "opencode",
       "shell", "test-runner", "unknown"]]⟩,
     ⟨"label", "TEXT", true, ["DEFAULT ''"]⟩,
     ⟨"project_path", "TEXT", true, ["DEFAULT ''"]⟩,
     ⟨"parent_agent_id", "TEXT", false, []⟩,
     ⟨"effective_permissions", "TEXT", true, []⟩,
     ⟨"created_at", "TEXT", true, []⟩,
     ⟨"last_registered_at", "TEXT", true, []⟩,
     ⟨"last_seen_at", "TEXT", false, []⟩,
     ⟨"active", "INTEGER", true, ["CHECK (active IN (0, 1))"]⟩]
  constraints :=
    ["UNIQUE " ++ paneKey]

def logAttachments : TableDef TableName where
  name := .logAttachments
  columns :=
    [⟨"attachment_id", "TEXT", false, ["PRIMARY KEY"]⟩, ⟨"agent_id", "TEXT", true, []⟩,
     ⟨"container_id", "TEXT", true, []⟩,
     ⟨"tmux_socket_path", "TEXT", true, []⟩,
     ⟨"tmux_session_name", "TEXT", true, []⟩,
     ⟨"tmux_window_index", "INTEGER", true, []⟩,
     ⟨"tmux_pane_index", "INTEGER", true, []⟩,
     ⟨"tmux_pane_id", "TEXT", true, []⟩,
     ⟨"log_path", "TEXT", true, []⟩,
     ⟨"status", "TEXT", true, [checkIn "status" ["active", "superseded", "stale", "detached"]]⟩,
     ⟨"source", "TEXT", true, [checkIn "source" ["explicit", "register_self"]]⟩,
     ⟨"pipe_pane_command", "TEXT", true, []⟩,
     ⟨"prior_pipe_target", "TEXT", false, []⟩,
     ⟨"attached_at", "TEXT", true, []⟩,
     ⟨"last_status_at", "TEXT", true, []⟩,
     ⟨"superseded_at", "TEXT", false, []⟩,
     ⟨"superseded_by", "TEXT", false, []⟩,
     ⟨"created_at", "TEXT", true, []⟩]
  constraints :=
    ["FOREIGN KEY (agent_id) REFERENCES agents(agent_id) ON DELETE RESTRICT",
     "FOREIGN KEY (superseded_by) REFERENCES log_attachments(attachment_id) ON DELETE RESTRICT"]

def logOffsets : TableDef TableName where
  name := .logOffsets
  columns :=
    [⟨"agent_id", "TEXT", true, []⟩, ⟨"log_path", "TEXT", true, []⟩,
     ⟨"byte_offset", "INTEGER", true, ["DEFAULT 0"]⟩,
     ⟨"line_offset", "INTEGER", true, ["DEFAULT 0"]⟩,
     ⟨"last_event_offset", "INTEGER", true, ["DEFAULT 0"]⟩,
     ⟨"last_output_at", "TEXT", false, []⟩,
     ⟨"file_inode", "TEXT", false, []⟩,
     ⟨"file_size_seen", "INTEGER", true, ["DEFAULT 0"]⟩,
     ⟨"created_at", "TEXT", true, []⟩,
     ⟨"updated_at", "TEXT", true, []⟩]
  constraints :=
    ["PRIMARY KEY (agent_id, log_path)",
     "FOREIGN KEY (agent_id) REFERENCES agents(agent_id) ON DELETE RESTRICT"]

def classifierTypes : List String :=
  ["activity", "waiting_for_input", "completed", "error", "test_failed", "test_passed",
   "manual_review_needed", "long_running", "pane_exited", "swarm_member_reported"]

/-- As `_apply_migration_v6` makes it. -/
def events : TableDef TableName where
  name := .events
  columns :=
    [⟨"event_id", "INTEGER", false, ["PRIMARY KEY AUTOINCREMENT"]⟩,
     ⟨"event_type", "TEXT", true, [checkIn "event_type" classifierTypes]⟩,
     ⟨"agent_id", "TEXT", true, []⟩,
     ⟨"attachment_id", "TEXT", true, []⟩,
     ⟨"log_path", "TEXT", true, []⟩,
     ⟨"byte_range_start", "INTEGER", true, ["CHECK (byte_range_start >= 0)"]⟩,
     ⟨"byte_range_end", "INTEGER", true, ["CHECK (byte_range_end >= byte_range_start)"]⟩,
     ⟨"line_offset_start", "INTEGER", true, ["CHECK (line_offset_start >= 0)"]⟩,
     ⟨"line_offset_end", "INTEGER", true, ["CHECK (line_offset_end >= line_offset_start)"]⟩,
     ⟨"observed_at", "TEXT", true, []⟩,
     ⟨"record_at", "TEXT", false, ["CHECK (record_at IS NULL)"]⟩,
     ⟨"excerpt", "TEXT", true, []⟩,
     ⟨"classifier_rule_id", "TEXT", true, []⟩,
     ⟨"debounce_window_id", "TEXT", false, []⟩,
     ⟨"debounce_collapsed_count", "INTEGER", true, ["DEFAULT 1",
       "CHECK (debounce_collapsed_count >= 1)"]⟩,
     ⟨"debounce_window_started_at", "TEXT", false, []⟩,
     ⟨"debounce_window_ended_at", "TEXT", false, []⟩,
     ⟨"schema_version", "INTEGER", true, ["DEFAULT 1", "CHECK (schema_version >= 1)"]⟩,
     ⟨"jsonl_appended_at", "TEXT", false, []⟩]
  constraints := []

def messageQueue : TableDef TableName where
  name := .messageQueue
  columns :=
    [⟨"message_id", "TEXT", false, ["PRIMARY KEY"]⟩,
     ⟨"state", "TEXT", true, [checkIn "state" ["queued", "blocked", "delivered", "canceled",
       "failed"]]⟩,
     ⟨"block_reason", "TEXT", false, [checkNullOrIn "block_reason" ["sender_role_not_permitted",
       "target_role_not_permitted", "target_not_active", "target_pane_missing",
       "target_container_inactive", "kill_switch_off", "operator_delayed"]]⟩,
     ⟨"failure_reason", "TEXT", false, [checkNullOrIn "failure_reason" ["attempt_interrupted",
       "tmux_paste_failed", "docker_exec_failed", "tmux_send_keys_failed",
       "pane_disappeared_mid_attempt", "sqlite_lock_conflict"]]⟩,
     ⟨"sender_agent_id", "TEXT", true, []⟩,
     ⟨"sender_label", "TEXT", true, []⟩,
     ⟨"sender_role", "TEXT", true, []⟩,
     ⟨"sender_capability", "TEXT", false, []⟩,
     ⟨"target_agent_id", "TEXT", true, []⟩,
     ⟨"target_label", "TEXT", true, []⟩,
     ⟨"target_role", "TEXT", true, []⟩,
     ⟨"target_capability", "TEXT", false, []⟩,
     ⟨"target_container_id", "TEXT", true, []⟩,
     ⟨"target_pane_id", "TEXT", true, []⟩,
     ⟨"envelope_body", "BLOB", true, []⟩,
     ⟨"envelope_body_sha256", "TEXT", true, []⟩,
     ⟨"envelope_size_bytes", "INTEGER", true, ["CHECK (envelope_size_bytes > 0)"]⟩,
     ⟨"enqueued_at", "TEXT", true, []⟩,
     ⟨"delivery_attempt_started_at", "TEXT", false, []⟩,
     ⟨"delivered_at", "TEXT", false, []⟩,
     ⟨"failed_at", "TEXT", false, []⟩,
     ⟨"canceled_at", "TEXT", false, []⟩,
     ⟨"last_updated_at", "TEXT", true, []⟩,
     ⟨"operator_action", "TEXT", false, [checkNullOrIn "operator_action" ["approved", "delayed",
       "canceled"]]⟩,
     ⟨"operator_action_at", "TEXT", false, []⟩,
     ⟨"operator_action_by", "TEXT", false, []⟩]
  constraints :=
    ["CHECK (block_reason IS NULL OR state = 'blocked')",
     "CHECK (failure_reason IS NULL OR state = 'failed')",
     "CHECK ((operator_action IS NULL AND operator_action_at IS NULL " ++
       "AND operator_action_by IS NULL) " ++
       "OR (operator_action IS NOT NULL AND operator_action_at IS NOT NULL " ++
       "AND operator_action_by IS NOT NULL))",
     "CHECK (state != 'delivered' OR delivered_at IS NOT NULL)",
     "CHECK (state != 'failed' OR failed_at IS NOT NULL)",
     "CHECK (state != 'canceled' OR canceled_at IS NOT NULL)"]

def daemonState : TableDef TableName where
  name := .daemonState
  columns :=
    [⟨"key", "TEXT", false, ["PRIMARY KEY", checkIn "key" ["routing_enabled"]]⟩,
     ⟨"value", "TEXT", true, []⟩,
     ⟨"last_updated_at", "TEXT", true, []⟩,
     ⟨"last_updated_by", "TEXT", true, []⟩]
  constraints :=
    ["CHECK ((key = 'routing_enabled' AND value IN ('enabled', 'disabled')))"]

def auditTypes : List String :=
  ["queue_message_enqueued", "queue_message_delivered", "queue_message_blocked",
   "queue_message_failed", "queue_message_canceled", "queue_message_approved",
   "queue_message_delayed", "routing_toggled"]

def eventsNew : TableDef TableName where
  name := .eventsNew
  columns :=
    [⟨"event_id", "INTEGER", false, ["PRIMARY KEY AUTOINCREMENT"]⟩,
     ⟨"event_type", "TEXT", true, [checkIn "event_type" (classifierTypes ++ auditTypes)]⟩,
     ⟨"agent_id", "TEXT", true, []⟩,
     ⟨"attachment_id", "TEXT", false, []⟩,
     ⟨"log_path", "TEXT", false, []⟩,
     ⟨"byte_range_start", "INTEGER", false, ["CHECK (byte_range_start IS NULL " ++
       "OR byte_range_start >= 0)"]⟩,
     ⟨"byte_range_end", "INTEGER", false, ["CHECK (byte_range_end IS NULL " ++
       "OR (byte_range_start IS NOT NULL AND byte_range_end >= byte_range_start))"]⟩,
     ⟨"line_offset_start", "INTEGER", false, ["CHECK (line_offset_start IS NULL " ++
       "OR line_offset_start >= 0)"]⟩,
     ⟨"line_offset_end", "INTEGER", false, ["CHECK (line_offset_end IS NULL " ++
       "OR (line_offset_start IS NOT NULL AND line_offset_end >= line_offset_start))"]⟩,
     ⟨"observed_at", "TEXT", true, []⟩,
     ⟨"record_at", "TEXT", false, ["CHECK (record_at IS NULL)"]⟩,
     ⟨"excerpt", "TEXT", true, []⟩,
     ⟨"classifier_rule_id", "TEXT", false, []⟩,
     ⟨"debounce_window_id", "TEXT", false, []⟩,
     ⟨"debounce_collapsed_count", "INTEGER", true, ["DEFAULT 1",
       "CHECK (debounce_collapsed_count >= 1)"]⟩,
     ⟨"debounce_window_started_at", "TEXT", false, []⟩,
     ⟨"debounce_window_ended_at", "TEXT", false, []⟩,
     ⟨"schema_version", "INTEGER", true, ["DEFAULT 1", "CHECK (schema_version >= 1)"]⟩,
     ⟨"jsonl_appended_at", "TEXT", false, []⟩]
  constraints :=
    ["CHECK ((byte_range_start IS NULL AND byte_range_end IS NULL) " ++
       "OR (byte_range_start IS NOT NULL AND byte_range_end IS NOT NULL))",
     "CHECK ((line_offset_start IS NULL AND line_offset_end IS NULL) " ++
       "OR (line_offset_start IS NOT NULL AND line_offset_end IS NOT NULL))"]

def routes : TableDef TableName where
  name := .routes
  columns :=
    [⟨"route_id", "TEXT", true, ["PRIMARY KEY"]⟩,
     ⟨"event_type", "TEXT", true, [checkIn "event_type" classifierTypes]⟩,
     ⟨"source_scope_kind", "TEXT", true, [checkIn "source_scope_kind" ["any", "agent_id", "role"]]⟩,
     ⟨"source_scope_value", "TEXT", false, []⟩,
     ⟨"target_rule", "TEXT", true, [checkIn "target_rule" ["explicit", "source", "role"]]⟩,
     ⟨"target_value", "TEXT", false, []⟩,
     ⟨"master_rule", "TEXT", true, [checkIn "master_rule" ["auto", "explicit"]]⟩,
     ⟨"master_value", "TEXT", false, []⟩,
     ⟨"template", "TEXT", true, []⟩,
     ⟨"enabled", "INTEGER", true, ["DEFAULT 1", "CHECK (enabled IN (0, 1))"]⟩,
     ⟨"last_consumed_event_id", "INTEGER", true, ["DEFAULT 0",
       "CHECK (last_consumed_event_id >= 0)"]⟩,
     ⟨"created_at", "TEXT", true, []⟩,
     ⟨"updated_at", "TEXT", true, []⟩,
     ⟨"created_by_agent_id", "TEXT", false, []⟩]
  constraints :=
    ["CHECK ((source_scope_kind = 'any' AND source_scope_value IS NULL) " ++
       "OR (source_scope_kind != 'any' AND source_scope_value IS NOT NULL))",
     "CHECK ((target_rule = 'source' AND target_value IS NULL) " ++
       "OR (target_rule != 'source' AND target_value IS NOT NULL))",
     "CHECK ((master_rule = 'auto' AND master_value IS NULL) " ++
       "OR (master_rule = 'explicit' AND master_value IS NOT NULL))"]

/-! ## Indexes -/

def containersActiveLastscan : Index TableName IndexName :=
  ⟨.containersActiveLastscan, .containers, [desc "active", desc "last_scanned_at",
    asc "container_id"], false, none⟩

def containerScansStarted : Index TableName IndexName :=
  ⟨.containerScansStarted, .containerScans, [desc "started_at"], false, none⟩

def panesActiveOrder : Index TableName IndexName :=
  ⟨.panesActiveOrder, .panes, [desc "active", asc "container_id", asc "tmux_socket_path",
    asc "tmux_session_name", asc "tmux_window_index", asc "tmux_pane_index"], false, none⟩

def panesContainerSocket : Index TableName IndexName :=
  ⟨.panesContainerSocket, .panes, [asc "container_id", asc "tmux_socket_path"], false, none⟩

def paneScansStarted : Index TableName IndexName :=
  ⟨.paneScansStarted, .paneScans, [desc "started_at"], false, none⟩

def agentsActiveOrder : Index TableName IndexName :=
  ⟨.agentsActiveOrder, .agents, [desc "active", asc "container_id", asc "parent_agent_id",
    asc "label", asc "agent_id"], false, none⟩

def agentsParentLookup : Index TableName IndexName :=
  ⟨.agentsParentLookup, .agents, [asc "parent_agent_id"], false, none⟩

def agentsPaneLookup : Index TableName IndexName :=
  ⟨.agentsPaneLookup, .agents, [asc "container_id", asc "tmux_socket_path", asc "tmux_session_name",
    asc "tmux_window_index", asc "tmux_pane_index", asc "tmux_pane_id"], false, none⟩

def logAttachmentsAgentStatus : Index TableName IndexName :=
  ⟨.logAttachmentsAgentStatus, .logAttachments, [asc "agent_id", asc "status",
    desc "last_status_at"], false, none⟩

def logAttachmentsPaneStatus : Index TableName IndexName :=
  ⟨.logAttachmentsPaneStatus, .logAttachments, [asc "container_id", asc "tmux_socket_path",
    asc "tmux_session_name", asc "tmux_window_index", asc "tmux_pane_index", asc "tmux_pane_id",
    asc "status"], false, none⟩

def logAttachmentsActiveLogPath : Index TableName IndexName :=
  ⟨.logAttachmentsActiveLogPath, .logAttachments, [asc "log_path"], true, some "status = 'active'"⟩

def logOffsetsAgent : Index TableName IndexName :=
  ⟨.logOffsetsAgent, .logOffsets, [asc "agent_id"], false, none⟩

def idxEventsAgentEventid : Index TableName IndexName :=
  ⟨.idxEventsAgentEventid, .events, [asc "agent_id", asc "event_id"], false, none⟩

def idxEventsTypeEventid : Index TableName IndexName :=
  ⟨.idxEventsTypeEventid, .events, [asc "event_type", asc "event_id"], false, none⟩

def idxEventsObservedatEventid : Index TableName IndexName :=
  ⟨.idxEventsObservedatEventid, .events, [asc "observed_at", asc "event_id"], false, none⟩

def idxEventsJsonlPending : Index TableName IndexName :=
  ⟨.idxEventsJsonlPending, .events, [asc "event_id"], false, some "jsonl_appended_at IS NULL"⟩

def idxMessageQueueStateEnqueued : Index TableName IndexName :=
  ⟨.idxMessageQueueStateEnqueued, .messageQueue, [asc "state", asc "enqueued_at", asc "message_id"],
    false, none⟩

def idxMessageQueueTargetEnqueued : Index TableName IndexName :=
  ⟨.idxMessageQueueTargetEnqueued, .messageQueue, [asc "target_agent_id", asc "enqueued_at",
    asc "message_id"], false, none⟩

def idxMessageQueueSenderEnqueued : Index TableName IndexName :=
  ⟨.idxMessageQueueSenderEnqueued, .messageQueue, [asc "sender_agent_id", asc "enqueued_at",
    asc "message_id"], false, none⟩

def idxMessageQueueInFlight : Index TableName IndexName :=
  ⟨.idxMessageQueueInFlight, .messageQueue, [asc "target_agent_id"], false,
    some ("delivery_attempt_started_at IS NOT NULL AND delivered_at IS NULL " ++
      "AND failed_at IS NULL AND canceled_at IS NULL")⟩

def idxRoutesCreatedAtRouteId : Index TableName IndexName :=
  ⟨.idxRoutesCreatedAtRouteId, .routes, [asc "created_at", asc "route_id"], false, none⟩

def idxMessageQueueRouteEvent : Index TableName IndexName :=
  ⟨.idxMessageQueueRouteEvent, .messageQueue, [asc "route_id", asc "event_id"], true,
    some "origin = 'route'"⟩

/-! ## Migrations -/

inductive OpenError where
  | sql (e : SqlError TableName IndexName)
  | newerSchema (onDisk : Int)
  | noMigration (version : Int)
  | badVersion
  deriving DecidableEq, Repr

abbrev Database := Db TableName IndexName

abbrev Statement := Stmt TableName IndexName

abbrev Migration := Script Statement Database OpenError

def currentSchemaVersion : Int := 8

def applyMigrationV2 : List Statement :=
  [.createTable true containers, .createIndex true containersActiveLastscan,
    .createTable true containerScans, .createIndex true containerScansStarted]

def applyMigrationV3 : List Statement :=
  [.createTable true panes, .createIndex true panesActiveOrder,
    .createIndex true panesContainerSocket, .createTable true paneScans,
    .createIndex true paneScansStarted]

def applyMigrationV4 : List Statement :=
  [.createTable true agents, .createIndex true agentsActiveOrder,
    .createIndex true agentsParentLookup, .createIndex true agentsPaneLookup]

def applyMigrationV5 : List Statement :=
  [.createTable true logAttachments, .createIndex true logAttachmentsAgentStatus,
    .createIndex true logAttachmentsPaneStatus, .createIndex true logAttachmentsActiveLogPath,
    .createTable true logOffsets, .createIndex true logOffsetsAgent]

def eventsIndexes : List (Index TableName IndexName) :=
  [idxEventsAgentEventid, idxEventsTypeEventid, idxEventsObservedatEventid, idxEventsJsonlPending]

def applyMigrationV6 : List Statement :=
  .createTable true events :: eventsIndexes.map (.createIndex true)

def createQueue : List Statement :=
  [.createTable true messageQueue, .createIndex true idxMessageQueueStateEnqueued,
    .createIndex true idxMessageQueueTargetEnqueued, .createIndex true idxMessageQueueSenderEnqueued,
    .createIndex true idxMessageQueueInFlight, .createTable true daemonState,
    .insertOrIgnore .daemonState (.text "routing_enabled")
      [.text "enabled", .now, .text "(daemon-init)"]]

/-- The second part: neither the table nor, below, the indexes are made only if they are missing. -/
def copyEvents : List Statement :=
  [.createTable false eventsNew, .insertSelect .eventsNew .events, .dropTable .events,
    .renameTable .eventsNew .events]

/-- `PRAGMA table_info(events)` does not say that `attachment_id` is `NOT NULL`; or there is no such
table. -/
def eventsRebuilt (db : Database) : Bool :=
  match db.table? .events with
  | none => true
  | some t => (t.column? "attachment_id").all fun c => !c.notNull

def rebuildEvents : Migration :=
  .read fun db =>
    if eventsRebuilt db then .done
    else (Script.statements copyEvents).seq (.statements (eventsIndexes.map (.createIndex false)))

def applyMigrationV7 : Migration := (Script.statements createQueue).seq rebuildEvents

def queueColumns : List (Column × Value) :=
  [(⟨"origin", "TEXT", true, ["DEFAULT 'direct'", checkIn "origin" ["direct", "route"]]⟩,
      .text "direct"),
    (⟨"route_id", "TEXT", false, []⟩, .null), (⟨"event_id", "INTEGER", false, []⟩, .null)]

def applyMigrationV8 : Migration :=
  (Script.statements [.createTable true routes, .createIndex true idxRoutesCreatedAtRouteId]).seq
    ((addMissingColumns .messageQueue queueColumns).seq
      (.statements [.createIndex true idxMessageQueueRouteEvent]))

def migrations : List (Int × Migration) :=
  [(2, .statements applyMigrationV2), (3, .statements applyMigrationV3),
    (4, .statements applyMigrationV4), (5, .statements applyMigrationV5),
    (6, .statements applyMigrationV6), (7, applyMigrationV7), (8, applyMigrationV8)]

def pendingMigrations (current : Int) : Migration :=
  (migrations.filter fun m => decide (current < m.1)).foldr
    (fun (m : Int × Migration) (rest : Migration) => m.2.seq rest) .done

/-- One transaction; the first version after `current` has to be in the table. -/
def applyPendingMigrations (current : Int) : Migration :=
  if current < 1 then .raise (.noMigration (current + 1))
  else
    .transaction ((pendingMigrations current).seq
        (.exec (.setColumn .schemaVersion "version" (.integer currentSchemaVersion)) .done))
      .done

def ensureCurrentSchema (currentVersion : Int) : Migration :=
  if currentVersion < currentSchemaVersion then applyPendingMigrations currentVersion
  else if currentSchemaVersion < currentVersion then .raise (.newerSchema currentVersion)
  else
    (Script.statements applyMigrationV2).seq ((Script.statements applyMigrationV3).seq
      ((Script.statements applyMigrationV4).seq ((Script.statements applyMigrationV5).seq
        ((Script.statements applyMigrationV6).seq (applyMigrationV7.seq applyMigrationV8)))))

def configureConnection : List Statement :=
  [.pragma "journal_mode = WAL", .pragma "foreign_keys = ON", .createTable true schemaVersion]

/-- `_read_or_create_schema_version`, with what is done with the version. -/
def readOrCreateSchemaVersion (next : Int → Migration) : Migration :=
  .read fun db =>
    match (db.table? .schemaVersion).map Table.rows with
    | none => .raise (.sql (.noSuchTable .schemaVersion))
    -- a new file: the version is stored before any table of that version is there
    | some [] =>
      .exec (.insert .schemaVersion [.integer currentSchemaVersion]) (next currentSchemaVersion)
    | some (row :: _) =>
      match row.head? with
      | some (.integer version) => next version
      | _ => .raise .badVersion

def openRegistry : Migration :=
  (Script.statements configureConnection).seq (readOrCreateSchemaVersion ensureCurrentSchema)

abbrev issue : Statement → Database → Except OpenError Database := Stmt.issue OpenError.sql

end AgentTower.Schema
