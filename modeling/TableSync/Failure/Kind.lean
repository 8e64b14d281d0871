/-
  TableSync/Failure/Kind.lean
  ===========================
  **Kinds of failure** — what can go wrong, and which kinds include which.

  `FaultKind` lists the failures that a sync reports itself.  They form a
  hierarchy with two cross-cutting kinds: failures that may pass when the
  operation is tried again, and failures that will not.  `OutsideKind` lists
  the failures of what a sync stands on: reading numbers and files, look-ups,
  the transport of requests, what the store takes.  A kind includes the kinds
  below it, which is what a retry policy goes by.
-/

namespace TableSync

/-- A kind and everything above it, in a hierarchy that is four levels deep. -/
def withinThree {Kind : Type} [DecidableEq Kind] (parents : Kind → List Kind) (kind : Kind) : List Kind :=
  let above (kinds : List Kind) := kinds.flatMap parents
  let first := above [kind]
  let second := above first
  let third := above second
  (kind :: (first ++ second ++ third)).eraseDups

/-- Failures that a sync reports itself. -/
inductive FaultKind where
  | sync
  | retryable
  | nonRetryable
  | configuration
  | writeConfig
  | checkpoint
  | missingCheckpoint
  | source
  | sourceRead
  | network
  | rateLimit
  | authentication
  | resourceNotFound
  | transformation
  | keyGeneration
  | recordPreparation
  | tableStore
  | unsupportedTableType
  | instantState
  | write
  | commitFailed
  | writeErrorsExceeded
  | rollback
  | catalogSync
deriving DecidableEq, Repr, Inhabited

/-- The name under which a kind is reported. -/
def FaultKind.name : FaultKind → String
  | .sync => "SyncException"
  | .retryable => "RetryableError"
  | .nonRetryable => "NonRetryableError"
  | .configuration => "ConfigurationError"
  | .writeConfig => "WriteConfigError"
  | .checkpoint => "CheckpointError"
  | .missingCheckpoint => "MissingCheckpointError"
  | .source => "SourceError"
  | .sourceRead => "SourceReadError"
  | .network => "NetworkError"
  | .rateLimit => "RateLimitError"
  | .authentication => "AuthenticationError"
  | .resourceNotFound => "ResourceNotFoundError"
  | .transformation => "TransformationError"
  | .keyGeneration => "KeyGenerationError"
  | .recordPreparation => "RecordPreparationError"
  | .tableStore => "TableStoreError"
  | .unsupportedTableType => "UnsupportedTableTypeError"
  | .instantState => "InstantStateError"
  | .write => "WriteError"
  | .commitFailed => "CommitFailedError"
  | .writeErrorsExceeded => "WriteErrorsExceededError"
  | .rollback => "RollbackError"
  | .catalogSync => "CatalogSyncError"

/-- The kinds directly above a kind. -/
def FaultKind.parents : FaultKind → List FaultKind
  | .retryable => [.sync]
  | .nonRetryable => [.sync]
  | .configuration => [.nonRetryable]
  | .writeConfig => [.configuration]
  | .checkpoint => [.sync]
  | .missingCheckpoint => [.checkpoint]
  | .source => [.sync]
  | .sourceRead => [.source]
  | .network => [.retryable, .source]
  | .rateLimit => [.retryable, .source]
  | .authentication => [.nonRetryable, .source]
  | .resourceNotFound => [.nonRetryable, .source]
  | .transformation => [.sync]
  | .keyGeneration => [.transformation]
  | .recordPreparation => [.transformation]
  | .tableStore => [.sync]
  | .unsupportedTableType => [.nonRetryable, .tableStore]
  | .instantState => [.retryable, .tableStore]
  | .write => [.sync]
  | .commitFailed => [.write]
  | .writeErrorsExceeded => [.write]
  | .rollback => [.write]
  | .catalogSync => [.sync]
  | _ => []

/-- All kinds. -/
def FaultKind.all : List FaultKind :=
  [.sync, .retryable, .nonRetryable, .configuration, .writeConfig, .checkpoint, .missingCheckpoint, .source, .sourceRead, .network, .rateLimit, .authentication, .resourceNotFound, .transformation, .keyGeneration, .recordPreparation, .tableStore, .unsupportedTableType, .instantState, .write, .commitFailed, .writeErrorsExceeded, .rollback, .catalogSync]

/-- A kind and everything above it. -/
def FaultKind.ancestors : FaultKind → List FaultKind := withinThree FaultKind.parents

/-- `kind` is `other` or below it. -/
def FaultKind.isA (kind other : FaultKind) : Bool := kind.ancestors.contains other

/-- Failures of what a sync stands on. -/
inductive OutsideKind where
  | runtime
  | lookup
  | key
  | index
  | value
  | type
  | attribute
  | arithmetic
  | zeroDivision
  | overflow
  | os
  | timeout
  | fileNotFound
  | undefinedName
  | undefinedVariable
  | syntaxFault
  | tokenFault
  | unsupported
  | imports
  | moduleNotFound
  | textDecoding
  | jsonDecoding
  | tableParsing
  | statement
  | integrity
  | http
  | httpStatus
  | transport
  | transportTimeout
  | connectTimeout
  | readTimeout
  | writeTimeout
  | poolTimeout
  | networkFault
  | connect
  | read
  | writeFault
  | close
  | protocol
  | remoteProtocol
  | localProtocol
  | unsupportedProtocol
  | proxy
  | tooManyRedirects
  | decoding
deriving DecidableEq, Repr, Inhabited

/-- The name under which a kind is reported. -/
def OutsideKind.name : OutsideKind → String
  | .runtime => "RuntimeError"
  | .lookup => "LookupError"
  | .key => "KeyError"
  | .index => "IndexError"
  | .value => "ValueError"
  | .type => "TypeError"
  | .attribute => "AttributeError"
  | .arithmetic => "ArithmeticError"
  | .zeroDivision => "ZeroDivisionError"
  | .overflow => "OverflowError"
  | .os => "OSError"
  | .timeout => "TimeoutError"
  | .fileNotFound => "FileNotFoundError"
  | .undefinedName => "NameError"
  | .undefinedVariable => "UndefinedVariableError"
  | .syntaxFault => "SyntaxError"
  | .tokenFault => "TokenError"
  | .unsupported => "NotImplementedError"
  | .imports => "ImportError"
  | .moduleNotFound => "ModuleNotFoundError"
  | .textDecoding => "UnicodeDecodeError"
  | .jsonDecoding => "JSONDecodeError"
  | .tableParsing => "ParserError"
  | .statement => "StatementError"
  | .integrity => "IntegrityError"
  | .http => "HTTPError"
  | .httpStatus => "HTTPStatusError"
  | .transport => "TransportError"
  | .transportTimeout => "TimeoutException"
  | .connectTimeout => "ConnectTimeout"
  | .readTimeout => "ReadTimeout"
  | .writeTimeout => "WriteTimeout"
  | .poolTimeout => "PoolTimeout"
  | .networkFault => "NetworkError"
  | .connect => "ConnectError"
  | .read => "ReadError"
  | .writeFault => "WriteError"
  | .close => "CloseError"
  | .protocol => "ProtocolError"
  | .remoteProtocol => "RemoteProtocolError"
  | .localProtocol => "LocalProtocolError"
  | .unsupportedProtocol => "UnsupportedProtocol"
  | .proxy => "ProxyError"
  | .tooManyRedirects => "TooManyRedirects"
  | .decoding => "DecodingError"

/-- The kinds directly above a kind. -/
def OutsideKind.parents : OutsideKind → List OutsideKind
  | .key => [.lookup]
  | .index => [.lookup]
  | .zeroDivision => [.arithmetic]
  | .overflow => [.arithmetic]
  | .timeout => [.os]
  | .fileNotFound => [.os]
  | .undefinedVariable => [.undefinedName]
  | .unsupported => [.runtime]
  | .moduleNotFound => [.imports]
  | .textDecoding => [.value]
  | .jsonDecoding => [.value]
  | .tableParsing => [.value]
  | .integrity => [.statement]
  | .httpStatus => [.http]
  | .transport => [.http]
  | .transportTimeout => [.transport]
  | .connectTimeout => [.transportTimeout]
  | .readTimeout => [.transportTimeout]
  | .writeTimeout => [.transportTimeout]
  | .poolTimeout => [.transportTimeout]
  | .networkFault => [.transport]
  | .connect => [.networkFault]
  | .read => [.networkFault]
  | .writeFault => [.networkFault]
  | .close => [.networkFault]
  | .protocol => [.transport]
  | .remoteProtocol => [.protocol]
  | .localProtocol => [.protocol]
  | .unsupportedProtocol => [.transport]
  | .proxy => [.transport]
  | .tooManyRedirects => [.http]
  | .decoding => [.http]
  | _ => []

/-- All kinds. -/
def OutsideKind.all : List OutsideKind :=
  [.runtime, .lookup, .key, .index, .value, .type, .attribute, .arithmetic, .zeroDivision,
   .overflow, .os, .timeout, .fileNotFound, .undefinedName, .undefinedVariable, .syntaxFault, .tokenFault, .unsupported, .imports,
   .moduleNotFound, .textDecoding, .jsonDecoding, .tableParsing, .statement, .integrity, .http, .httpStatus, .transport,
   .transportTimeout, .connectTimeout, .readTimeout, .writeTimeout, .poolTimeout, .networkFault, .connect, .read, .writeFault, .close,
   .protocol, .remoteProtocol, .localProtocol, .unsupportedProtocol, .proxy, .tooManyRedirects, .decoding]

/-- A kind and everything above it. -/
def OutsideKind.ancestors : OutsideKind → List OutsideKind := withinThree OutsideKind.parents

/-- `kind` is `other` or below it. -/
def OutsideKind.isA (kind other : OutsideKind) : Bool := kind.ancestors.contains other

/-- What a retry policy or a handler names: every failure, or the failures of one kind. -/
inductive FailureClass where
  | any
  | fault (kind : FaultKind)
  | outside (kind : OutsideKind)
deriving DecidableEq, Repr, Inhabited

/-- The name of a class of failures. -/
def FailureClass.name : FailureClass → String
  | any => "Exception"
  | fault kind => kind.name
  | outside kind => kind.name

end TableSync
