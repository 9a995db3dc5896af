import WalletEvents.Dispatch.Dispatcher
import WalletEvents.Http.Status
import WalletEvents.Network.Address
import WalletEvents.Payment.Fault
import WalletEvents.Text.Base64
import WalletEvents.Url.Fault

/-!
# Failures

The causes for which the library refuses a value or breaks off its work, each with its explanation
for people. What a failure of the network or of the machine says is left to its message.
-/

namespace WalletEvents

/-- Where an exchange of messages broke off. -/
inductive ExchangeFault where
  | request
  | body
  | transfer
  deriving DecidableEq

/-- What is wrong with a configuration. -/
inductive ConfigurationFault where
  | invalidNetwork (text : String)
  | lengthTooGreat (length : Nat) (address : Address)
  | noRoute
  | noBillSecret
  | noTransactionKey
  | keysUnsupported (url : String)
  | other (explanation : String)
  deriving DecidableEq

/-- Why a hook did not end well. -/
inductive HookFault where
  | failed (explanation : String)
  | crashed
  deriving DecidableEq

/-- Why some work could not be done. -/
inductive Failure where
  | exchange (fault : ExchangeFault)
  | json
  | refused (status : Nat) (body : String) (details : Option Fault)
  | url (fault : UrlFault)
  | headerValue
  | missingField (name : String)
  | configuration (fault : ConfigurationFault)
  | machine
  | key (fault : Base64Error)
  | dispatch (fault : DispatchError)
  | hook (fault : HookFault)
  deriving DecidableEq

def ConfigurationFault.message : ConfigurationFault → String
  | .invalidNetwork text => s!"некорректная подсеть: {text}"
  | .lengthTooGreat length address =>
    s!"длина префикса {Nat.repr length} больше {Nat.repr address.width} для {address.text}"
  | .noRoute => "не включен ни один маршрут вебхуков"
  | .noBillSecret => "для вебхуков счетов нужен секретный ключ P2P"
  | .noTransactionKey => "для вебхуков кошелька нужен key_base64 или public_url"
  | .keysUnsupported url => s!"клиент не умеет получать ключ вебхука для {url}"
  | .other explanation => explanation

def HookFault.message : HookFault → String
  | .failed explanation => explanation
  | .crashed => "task panicked"

namespace Failure

def message : Failure → String
  | .exchange _ => "Ошибка сети или HTTP запроса"
  | .json => "Ошибка сериализации/десериализации JSON"
  | .refused status body _ => s!"Ошибка API QIWI (Статус: {Http.statusText status}): {body}"
  | .url fault => s!"Неверный URL: {fault.message}"
  | .headerValue => "Неверное значение заголовка: failed to parse header value"
  | .missingField name => s!"Отсутствует обязательное поле: {name}"
  | .configuration fault => s!"Ошибка конфигурации: {fault.message}"
  | .machine => "Ошибка ввода-вывода"
  | .key fault => s!"Некорректный base64 ключ вебхука: {fault.message}"
  | .dispatch fault => fault.message
  | .hook fault => s!"Ошибка в хуке жизненного цикла: {fault.message}"

/-- Whether the service answered that it does not have what was asked for. -/
def isNotFound : Failure → Bool
  | .refused status _ _ => status == 404
  | _ => false

end Failure

end WalletEvents
