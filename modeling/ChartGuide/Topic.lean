/-
**The built-in troubleshooting topics.**

Each topic is a chart of its own, and link nodes lead from one to another. `Catalog.builtIn` is the
catalog of all of them.
-/

import ChartGuide.Catalog

namespace ChartGuide

/-- A chart under an id with a title. -/
structure Topic where
  id : String
  title : String
  source : String

namespace Topic

/-- The topics and how they depend on each other. -/
def systemOverview : Topic where
  id := "systemOverview"
  title := "System Overview"
  source := "flowchart TD
  %% Main Modules
  GO_CORE[Core System & Upload]
  GO_FIRMWARE[Firmware Runtime]
  GO_ELECTRICAL[Electrical Power]
  GO_CONNECTIVITY[Connectivity (WiFi/BT)]
  GO_INPUT[Sensors & Input]
  GO_OUTPUT[Actuators & Output]

  %% Relationships
  GO_CORE --> GO_FIRMWARE
  GO_CORE --> GO_ELECTRICAL

  GO_FIRMWARE --> GO_INPUT
  GO_FIRMWARE --> GO_OUTPUT

  GO_INPUT --> GO_ELECTRICAL
  GO_INPUT --> GO_CONNECTIVITY

  GO_CONNECTIVITY --> GO_ELECTRICAL

  %% Styling
  classDef default fill:#f9f9f9,stroke:#333,stroke-width:2px;
  classDef prominent fill:#e1f5fe,stroke:#0277bd,stroke-width:2px;
  class GO_CORE prominent;
"

/-- Getting a program onto the board. -/
def coreSystem : Topic where
  id := "coreSystem"
  title := "Core System & Upload"
  source := "flowchart TD
  S([Start ESP32 Debugging])

  S --> IDE\x7bWhich IDE\x7d
  IDE -->|MicroBlocks| MB1[Connection icon visible]
  IDE -->|Arduino IDE| ARD1[ESP32 board package installed]
  IDE -->|PlatformIO| PIO1[Platform and board configured]

  MB1 -->|No| FIX_DRV[Install CP210x or CH340 driver]
  ARD1 -->|No| FIX_BOARDPKG[Install ESP32 board package]
  PIO1 -->|No| FIX_PIO[Install platform package]

  FIX_DRV --> CHECK_PORTS[Does serial port appear]
  FIX_BOARDPKG --> CHECK_PORTS
  FIX_PIO --> CHECK_PORTS

  MB1 -->|Yes| CHECK_PORTS
  ARD1 -->|Yes| CHECK_PORTS
  PIO1 -->|Yes| CHECK_PORTS

  CHECK_PORTS -->|No| CABLE[Use data USB cable and different port]
  CHECK_PORTS -->|Yes| TRY_UPLOAD[Try upload]

  TRY_UPLOAD -->|Timeout error| BOOT_SEQ[Use BOOT button or IO0 to GND]
  TRY_UPLOAD -->|Other error| FLASH_SET[Check flash settings and erase flash]
  TRY_UPLOAD -->|Success| GO_FIRMWARE[Go to Firmware Runtime]
"

/-- A program that does not run as it should. -/
def firmwareRuntime : Topic where
  id := "firmwareRuntime"
  title := "Firmware Runtime"
  source := "flowchart TD
  START_FW([Firmware Runtime Debug])

  START_FW --> RUNS\x7bDoes code run\x7d
  RUNS -->|No| SERIAL_CHECK[Check serial monitor output]
  RUNS -->|Yes but wrong behavior| CHOOSE_IO\x7bIs it a Sensor or Actuator issue?\x7d

  SERIAL_CHECK -->|No output| BAUD[Check baud rate]
  SERIAL_CHECK -->|Boot logs present| EXC_CHECK[Exception or Guru Meditation]

  EXC_CHECK -->|Yes| DECODE[Decode stack trace]
  EXC_CHECK -->|No| CHOOSE_IO

  DECODE --> FIX_CODE[Fix memory bug or null pointer]
  FIX_CODE --> REUPLOAD[Reupload firmware]

  REUPLOAD --> START_FW

  CHOOSE_IO -->|Sensor/Input| GO_INPUT[Go to Input Troubleshoot]
  CHOOSE_IO -->|Motor/Output| GO_OUTPUT[Go to Output Troubleshoot]
"

/-- Sensors that give no or wrong readings. -/
def inputTroubleshoot : Topic where
  id := "inputTroubleshoot"
  title := "Sensors & Input"
  source := "flowchart TD
  INPUT_START([Sensor Input Issues])

  INPUT_START --> TYPE\x7bSensor type\x7d
  TYPE -->|Analog| ADC
  TYPE -->|I2C| I2C
  TYPE -->|SPI| SPI

  ADC --> WIFI_CHECK\x7bWiFi or Bluetooth active\x7d
  WIFI_CHECK -->|Yes| ADC1[Move sensor to GPIO32-39]
  WIFI_CHECK -->|No| ADC_WIRE[Check wiring and pull down resistor]

  I2C --> PULLUPS[Check pull up resistors]
  I2C --> ADDR[Check address conflict]
  I2C --> SDA_SCL[Check pins swapped]

  SPI --> CS_CHECK[Check CS handling]
  SPI --> MODE[Check SPI mode]
"

/-- Motors, servos and relays that do not move. -/
def outputTroubleshoot : Topic where
  id := "outputTroubleshoot"
  title := "Actuators & Output"
  source := "flowchart TD
  OUTPUT_START([Output Device Issues])

  OUTPUT_START --> TYPE\x7bDevice type\x7d
  TYPE -->|Servo| SERVO
  TYPE -->|Motor| MOTOR
  TYPE -->|Relay| RELAY

  SERVO --> EXT_PWR[Use external 5V supply]
  SERVO --> CAP[Add decoupling capacitor]

  MOTOR --> DRIVER[Use motor driver not GPIO]
  MOTOR --> NOISE[Add flyback diode]

  RELAY --> TRANSISTOR[Use transistor driver stage]
"

/-- Trouble with the wireless network. -/
def connectivity : Topic where
  id := "connectivity"
  title := "Connectivity (WiFi/BT)"
  source := "flowchart TD
  NET_START([Connectivity Issues])

  NET_START --> TYPE\x7bConnection type\x7d
  TYPE -->|WiFi| WIFI
  TYPE -->|Bluetooth| BT

  WIFI --> SSID[Check SSID and password]
  WIFI --> SIGNAL[Check signal strength]
  WIFI --> RESET\x7bBoard resets when WiFi starts\x7d
  RESET -->|Yes| GO_ELECTRICAL[Go to Electrical Power]

  WIFI --> DROPS\x7bWiFi drops?\x7d
  DROPS -->|Yes| POWER_SPIKE\x7bCauses brownout?\x7d
  POWER_SPIKE -->|Yes| GO_ELECTRICAL

  BT --> PAIR[Check pairing mode]
  BT --> STACK[Check BLE stack compatibility]
"

/-- Trouble with the power supply. -/
def electricalPower : Topic where
  id := "electricalPower"
  title := "Electrical Power"
  source := "flowchart TD
  PWR_START([Electrical and Power Issues])

  PWR_START --> BROWN\x7bBrownout detected\x7d
  PWR_START --> RESET[Random resets]
  PWR_START --> GND[Missing common ground]

  BROWN --> USB_PWR[Use stronger USB port]
  BROWN --> EXT_SUPPLY[Use stable external supply]
  BROWN --> CORE_VER[Check core version issues]

  RESET --> WDT[Watchdog reset from blocking loop]
  RESET --> EXC_BOOT[Startup exception]

  GND --> COMMON_GND[Ensure common ground across system]
"

def all : List Topic :=
  [systemOverview, coreSystem, firmwareRuntime, inputTroubleshoot, outputTroubleshoot, connectivity,
    electricalPower]

def find? (id : String) : Option Topic := all.find? fun topic => topic.id == id

end Topic

namespace Catalog

/-- The catalog after a topic was compiled. -/
def compileTopic (now : String) (catalog : Catalog) (topic : Topic) : Catalog :=
  catalog.compileSource (.text topic.id) topic.source (.text topic.title) .null now

/-- The catalog of all built-in topics. -/
def builtIn (settings : Settings) (now : String) : Catalog :=
  Topic.all.foldl (compileTopic now) { settings := settings }

/-- What compiling all built-in topics reports. -/
def builtInEvents (settings : Settings) : List Event :=
  let catalog : Catalog := { settings := settings }
  Topic.all.flatMap fun topic => catalog.compileEvents (.text topic.id) topic.source

end Catalog

end ChartGuide
